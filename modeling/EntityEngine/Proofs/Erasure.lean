import EntityEngine.Proofs.Steadiness

/-!
# Leaving out what changes nothing

An exchange is idle when its message was a snapshot request, or a command that was given
up, failed, was rejected, or was answered by a reply that shows no event, no new state
and no deletion. The main statement is that of a steady entity idle messages can be left
out of a conversation: the others get the same answers, and the life in the end is the
same. Idleness can be told from the answers alone; that the life does not change has to
be found in every way that a command can end.
-/

namespace EntityEngine

/-- The ending shows no change. -/
def Ending.isIdle : Ending → Bool
  | .answered (.reply reply) =>
    reply.clientAction.isError ||
      (reply.emittedEvents.isEmpty && reply.stateUpdate.isNone && !reply.deleteAfter)
  | .answered (.failure _) => true
  | .crashed _ => true
  | .cancelled => true
  | _ => false

def Exchange.isIdle (x : Exchange) : Bool :=
  match x.turn.message with
  | .snapshotRequest _ => true
  | .command _ => x.ending.isIdle
  | _ => false

def Ending.snapshot? : Ending → Option Snapshot
  | .answered (.snapshotReply reply) => some reply.snapshot
  | _ => none

/-- The second list is the first one without some idle exchanges. -/
inductive Thinned : List Exchange → List Exchange → Prop
  | nil : Thinned [] []
  | keep (x : Exchange) {all kept : List Exchange} (rest : Thinned all kept) :
      Thinned (x :: all) (x :: kept)
  | drop {x : Exchange} {all kept : List Exchange} (idle : x.isIdle = true)
      (rest : Thinned all kept) : Thinned (x :: all) kept

theorem thinned_filter (all : List Exchange) : Thinned all (all.filter fun x => !x.isIdle) := by
  induction all with
  | nil => exact .nil
  | cons x rest ih =>
      cases idle : x.isIdle with
      | true =>
          rw [List.filter_cons_of_neg (by simp [idle])]
          exact .drop idle ih
      | false =>
          rw [List.filter_cons_of_pos (by simp [idle])]
          exact .keep x ih

theorem Verdict.life_of_idle {E : Entity} {policy : SnapshotPolicy} {life : Incarnation E.State}
    {operation : String} {heard : Hearing E.State E.Event} {commandId : UInt64} {id : Uuid}
    (idle : ((E.judge policy life operation heard).ending commandId id).isIdle = true)
    (blank : E.State) : (E.judge policy life operation heard).life blank life = life := by
  cases verdict : E.judge policy life operation heard with
  | granted result =>
      rw [verdict] at idle
      obtain ⟨effect, -, interpreted⟩ := interpreted_of_judge verdict
      obtain ⟨silent, still, unpictured, kept⟩ := interpreted.unchanged (by
        simpa [Verdict.ending, Ending.isIdle, CommandResult.toReply, and_assoc] using idle)
      unfold Verdict.life Incarnation.after
      simp only [silent, still, unpictured, kept]
      simp
  | _ => rfl

namespace Session

variable {E : Entity} {blank : E.State} {s t : Session E}

/-- The snapshot of a life, if its state can be encoded. -/
def picture (life : Incarnation E.State) : Option Snapshot :=
  match E.states.encode life.state with
  | .ok state => some ⟨life.position.current, state⟩
  | .error _ => none

theorem snapshot?_portrait (life : Incarnation E.State) (requestId : UInt64) (id : Uuid) :
    (Ending.answered (portrait life requestId id)).snapshot? = picture life := by
  unfold portrait picture
  cases E.states.encode life.state <;> rfl

/-- An idle message changes nothing about the life of an entity. -/
theorem life_of_idle (empty : E.emptyState = .ok blank) (shared : Shared E.Memory) {turn : Turn}
    (alive : (s.serve shared turn).session.phase ≠ .terminated)
    {notices : List Notice} {calls : List TraceCall}
    (idle : Exchange.isIdle ⟨turn, (s.serve shared turn).response.ending, notices, calls⟩ = true) :
    s.Live ∧ (s.serve shared turn).session.phase = .active ∧
      (s.serve shared turn).session.options = s.options ∧
      (s.serve shared turn).session.identity = s.identity ∧
      (s.serve shared turn).session.life blank = s.life blank := by
  obtain ⟨message, patience⟩ := turn
  cases fits_of_serve empty alive with
  | init => cases idle
  | event => cases idle
  | @command command live own =>
      obtain ⟨id, after, ended⟩ := serve_command empty live own shared patience
      obtain ⟨active, options, identity⟩ :=
        settle_frame (s.awake blank) (s.verdict blank shared command patience)
      rw [ended] at idle
      rw [after, life_settle]
      exact ⟨live, active, options, identity, Verdict.life_of_idle idle blank⟩
  | @snapshotRequest request live =>
      obtain ⟨id, after, -⟩ := serve_snapshotRequest empty live request shared patience
      rw [after]
      exact ⟨live, rfl, rfl, rfl, rfl⟩

/-- The session `t` is where `s` would be without some idle messages. It may still be
replaying, because an idle message can be what made `s` active. -/
structure WithoutIdle (blank : E.State) (t s : Session E) : Prop where
  options : t.options = s.options
  identity : t.identity = s.identity
  life : t.life blank = s.life blank
  phase : t.phase = s.phase ∨ t.phase = .replaying ∧ s.phase = .active

theorem WithoutIdle.refl (s : Session E) : WithoutIdle blank s s := ⟨rfl, rfl, rfl, .inl rfl⟩

theorem WithoutIdle.answersAlike (without : WithoutIdle blank t s) : AnswersAlike blank t s where
  policy := congrArg Options.policy without.options
  tracer := congrArg Options.tracer without.options
  identity := without.identity
  state := congrArg Incarnation.state without.life
  current := congrArg (fun life => life.position.current) without.life

theorem WithoutIdle.live (without : WithoutIdle blank t s) (live : s.Live) : t.Live := by
  rcases without.phase with same | ⟨replaying, -⟩
  · rw [Live, same]
    exact live
  · exact .inl replaying

/-- Both sessions are in the same phase as long as `s` is not active. -/
theorem WithoutIdle.phase_eq (without : WithoutIdle blank t s) {phase : Phase}
    (here : s.phase = phase)
    (inactive : phase ≠ .active) : t.phase = phase := by
  rcases without.phase with same | ⟨-, active⟩
  · exact same.trans here
  · exact (inactive (here.symm.trans active)).elim

theorem WithoutIdle.keep (empty : E.emptyState = .ok blank) (steady : E.Steady)
    (without : WithoutIdle blank t s) (shared' shared : Shared E.Memory) (turn : Turn)
    (alive : (s.serve shared turn).session.phase ≠ .terminated) :
    WithoutIdle blank (t.serve shared' turn).session (s.serve shared turn).session ∧
      (t.serve shared' turn).response.ending.Alike (s.serve shared turn).response.ending := by
  obtain ⟨message, patience⟩ := turn
  cases fits_of_serve empty alive with
  | init waiting admits seeded =>
      obtain ⟨after, ended⟩ := serve_init empty waiting admits seeded shared patience
      rw [← without.options] at admits seeded
      obtain ⟨after', ended'⟩ := serve_init empty (without.phase_eq waiting (nomatch ·)) admits
        seeded shared' patience
      rw [after, after', ended, ended']
      exact ⟨⟨without.options, rfl, rfl, .inl rfl⟩, .same _⟩
  | event replaying replays =>
      obtain ⟨after, ended⟩ := serve_event empty replaying replays shared patience
      rw [← without.life] at replays
      obtain ⟨after', ended'⟩ := serve_event empty (without.phase_eq replaying (nomatch ·)) replays
        shared' patience
      rw [after, after', ended, ended']
      exact ⟨⟨without.options, without.identity, rfl, without.phase⟩, .same _⟩
  | command live own =>
      obtain ⟨v, after, after', alike⟩ := without.answersAlike.serve_command empty steady
        (without.live live) live own shared' shared patience
      obtain ⟨active, options, identity⟩ := settle_frame (t.awake blank) v
      obtain ⟨active', options', identity'⟩ := settle_frame (s.awake blank) v
      refine ⟨?_, alike⟩
      rw [after, after']
      refine ⟨?_, ?_, ?_, .inl (active.trans active'.symm)⟩
      · exact options.trans (without.options.trans options'.symm)
      · exact identity.trans (without.identity.trans identity'.symm)
      · rw [life_settle, life_settle, without.life]
  | @snapshotRequest request live =>
      obtain ⟨i, after, ended⟩ :=
        serve_snapshotRequest empty (without.live live) request shared' patience
      obtain ⟨j, after', ended'⟩ := serve_snapshotRequest empty live request shared patience
      rw [after, after', ended, ended']
      exact ⟨⟨without.options, without.identity, without.life, .inl rfl⟩,
        portrait_alike without.answersAlike.state without.answersAlike.current
          request.requestId i j⟩

theorem WithoutIdle.drop (empty : E.emptyState = .ok blank) (without : WithoutIdle blank t s)
    (shared : Shared E.Memory) {turn : Turn}
    (alive : (s.serve shared turn).session.phase ≠ .terminated)
    {notices : List Notice} {calls : List TraceCall}
    (idle : Exchange.isIdle ⟨turn, (s.serve shared turn).response.ending, notices, calls⟩ = true) :
    WithoutIdle blank t (s.serve shared turn).session := by
  obtain ⟨live, active, options, identity, life⟩ := life_of_idle empty shared alive idle
  refine ⟨without.options.trans options.symm, without.identity.trans identity.symm,
    without.life.trans life.symm, ?_⟩
  rcases without.live live with replaying | active'
  · exact .inr ⟨replaying, active⟩
  · exact .inl (active'.trans active.symm)

theorem WithoutIdle.converse (empty : E.emptyState = .ok blank) (steady : E.Steady)
    (without : WithoutIdle blank t s) (shared' shared : Shared E.Memory) {turns : List Turn}
    (alive : (s.converse shared turns).session.phase ≠ .terminated) {kept : List Exchange}
    (thinned : Thinned (s.converse shared turns).exchanges kept) :
    WithoutIdle blank (t.converse shared' (kept.map Exchange.turn)).session
        (s.converse shared turns).session ∧
      List.Forall₂ Exchange.Alike (t.converse shared' (kept.map Exchange.turn)).exchanges
        kept := by
  induction turns generalizing t s shared' shared kept with
  | nil =>
      cases thinned
      exact ⟨without, .nil⟩
  | cons turn rest ih =>
      have opening := phase_ne_terminated_of_converse (s := (s.serve shared turn).session) alive
      simp only [Session.converse] at thinned
      cases thinned with
      | keep _ later =>
          obtain ⟨next, alike⟩ := without.keep empty steady shared' shared turn opening
          obtain ⟨last, others⟩ := ih next _ _ alive later
          exact ⟨last, .cons ⟨rfl, alike⟩ others⟩
      | drop idle later =>
          exact ih (without.drop empty shared opening idle) shared' _ alive later

/-- After idle exchanges a snapshot request still gets the snapshot of the first life. -/
theorem snapshot?_of_idle (empty : E.emptyState = .ok blank) (shared : Shared E.Memory)
    {turns : List Turn} (alive : (s.converse shared turns).session.phase ≠ .terminated)
    {before after : List Exchange} {x : Exchange} {request : SnapshotRequest}
    (split : (s.converse shared turns).exchanges = before ++ x :: after)
    (idle : ∀ y ∈ before, y.isIdle = true) (asked : x.turn.message = .snapshotRequest request) :
    x.ending.snapshot? = picture (s.life blank) := by
  induction before generalizing s shared turns with
  | nil =>
      cases turns with
      | nil => cases split
      | cons turn rest =>
          obtain ⟨rfl, -⟩ := List.cons.inj split
          obtain ⟨message, patience⟩ := turn
          obtain rfl : message = .snapshotRequest request := asked
          have opening := phase_ne_terminated_of_converse
            (s := (s.serve shared ⟨.snapshotRequest request, patience⟩).session) alive
          cases fits_of_serve empty opening with
          | snapshotRequest live =>
              obtain ⟨id, -, ended⟩ := serve_snapshotRequest empty live request shared patience
              simp only [ended]
              exact snapshot?_portrait _ _ id
  | cons y before ih =>
      cases turns with
      | nil => cases split
      | cons turn rest =>
          obtain ⟨rfl, later⟩ := List.cons.inj split
          obtain ⟨first, others⟩ := List.forall_mem_cons.mp idle
          have opening :=
            phase_ne_terminated_of_converse (s := (s.serve shared turn).session) alive
          obtain ⟨-, -, -, -, same⟩ := life_of_idle empty shared opening first
          rw [← same]
          exact ih _ alive later others

theorem snapshot?_eq_of_idle (empty : E.emptyState = .ok blank) (shared : Shared E.Memory)
    {turns : List Turn} (alive : (s.converse shared turns).session.phase ≠ .terminated)
    {before between after : List Exchange} {x y : Exchange} {first second : SnapshotRequest}
    (split : (s.converse shared turns).exchanges = before ++ x :: (between ++ y :: after))
    (idle : ∀ z ∈ between, z.isIdle = true) (asked : x.turn.message = .snapshotRequest first)
    (again : y.turn.message = .snapshotRequest second) :
    x.ending.snapshot? = y.ending.snapshot? := by
  induction before generalizing s shared turns with
  | nil =>
      have start := snapshot?_of_idle empty shared alive split
        (fun z member => (List.not_mem_nil member).elim) asked
      have quiet : ∀ z ∈ x :: between, z.isIdle = true :=
        List.forall_mem_cons.mpr ⟨by simp only [Exchange.isIdle, asked], idle⟩
      rw [List.nil_append, ← List.cons_append] at split
      exact start.trans (snapshot?_of_idle empty shared alive split quiet again).symm
  | cons w before ih =>
      cases turns with
      | nil => cases split
      | cons turn rest =>
          exact ih (s := (s.serve shared turn).session) (s.serve shared turn).shared alive
            (List.cons.inj split).2

/-- Idle exchanges can be left out of a conversation of a steady entity: all others come out
alike, and state, number and last snapshot are the same in the end, where a deleted entity
counts as the empty state at number 0. Snapshot requests with only idle exchanges between
them get the same snapshot. -/
theorem converse_thinned (empty : E.emptyState = .ok blank) (steady : E.Steady) (o : Options)
    (shared' shared : Shared E.Memory) (turns : List Turn)
    (alive : ((fresh o : Session E).converse shared turns).session.phase ≠ .terminated) :
    let full := (fresh o : Session E).converse shared turns
    (∀ kept, Thinned full.exchanges kept →
      let thin := (fresh o : Session E).converse shared' (kept.map Exchange.turn)
      List.Forall₂ Exchange.Alike thin.exchanges kept ∧
        thin.session.phase ≠ .terminated ∧
        thin.session.state?.getD blank = full.session.state?.getD blank ∧
        thin.session.sequenceNumber?.getD 0 = full.session.sequenceNumber?.getD 0 ∧
        thin.session.lastSnapshot?.getD 0 = full.session.lastSnapshot?.getD 0) ∧
    ∀ before between after x y first second,
      full.exchanges = before ++ x :: (between ++ y :: after) →
      (∀ z ∈ between, z.isIdle = true) →
      x.turn.message = .snapshotRequest first → y.turn.message = .snapshotRequest second →
        x.ending.snapshot? = y.ending.snapshot? := by
  intro full
  constructor
  · intro kept thinned thin
    obtain ⟨without, alike⟩ :=
      (WithoutIdle.refl (fresh o : Session E)).converse empty steady shared'
      shared alive thinned
    refine ⟨alike, ?_, ?_, ?_, ?_⟩
    · rcases without.phase with same | ⟨replaying, -⟩
      · rw [same]
        exact alive
      · rw [replaying]
        exact (nomatch ·)
    · rw [state_getD, state_getD]
      exact congrArg Incarnation.state without.life
    · rw [sequenceNumber_getD _ blank, sequenceNumber_getD _ blank]
      exact congrArg (fun life => life.position.current) without.life
    · rw [lastSnapshot_getD _ blank, lastSnapshot_getD _ blank]
      exact congrArg (fun life => life.position.lastSnapshot) without.life
  · intro before between after x y first second split idle asked again
    exact snapshot?_eq_of_idle empty shared alive split idle asked again

/-- A visit to a counter without its idle exchanges. -/
theorem converse_thinned_visit :
    let full := (fresh .default : Session Samples.Counter.entity).converse Samples.Counter.host
      Samples.Counter.visit
    let kept := full.exchanges.filter fun x => !x.isIdle
    let thin := (fresh .default : Session Samples.Counter.entity).converse Samples.Counter.host
      (kept.map Exchange.turn)
    full.session.phase ≠ .terminated ∧ full.exchanges.length = 7 ∧ kept.length = 4 ∧
      List.Forall₂ Exchange.Alike thin.exchanges kept ∧
      thin.session.state?.getD ⟨0⟩ = full.session.state?.getD ⟨0⟩ := by
  intro full kept thin
  have alive : full.session.phase ≠ .terminated := by decide
  obtain ⟨alike, -, state, -⟩ := (@converse_thinned Samples.Counter.entity ⟨0⟩ rfl
    Samples.Counter.steady .default Samples.Counter.host Samples.Counter.host Samples.Counter.visit
    alive).1 kept (thinned_filter full.exchanges)
  exact ⟨alive, by decide, by decide, alike, state⟩

end Session

end EntityEngine
