import EntityEngine.Proofs.Discourse
import EntityEngine.Proofs.Steadiness

/-!
# A deletion is a fresh start

A session whose entity was deleted goes on to take commands, and the next one begins a
new life. It has been through a whole history, while a channel that was opened just now
has been through none. The main statement is that nothing tells the two apart: they
answer every later list of commands and snapshot requests in the same way, and they
agree on state, number and last snapshot after each message. Neither the events nor the
snapshot nor the new state that may come with the deletion are left behind.
-/

namespace EntityEngine

namespace Session

variable {E : Entity} {blank : E.State} {s t : Session E}

theorem decided_of_reply (empty : E.emptyState = .ok blank) (shared : Shared E.Memory)
    {command : Command} {patience : Nat} {reply : Reply}
    (replied : (s.serve shared ⟨.command command, patience⟩).response.ending =
      .answered (.reply reply)) :
    s.Live ∧ s.identity = some command.entityId ∧
      ∃ id, (s.verdict blank shared command patience).ending command.commandId id =
        .answered (.reply reply) := by
  have served := serve_served empty s shared ⟨.command command, patience⟩
  rw [replied] at served
  generalize (s.serve shared ⟨.command command, patience⟩).session = after at served
  generalize ending : Ending.answered (.reply reply) = out at served
  cases served with
  | closed => cases ending
  | broken => cases ending
  | decided live own => exact ⟨live, own, _, rfl⟩

theorem life_settle_of_deletion {v : Verdict E.State} {commandId : UInt64} {id : Uuid}
    {reply : Reply} (replied : v.ending commandId id = .answered (.reply reply))
    (deletes : reply.deleteAfter = true) :
    ((s.awake blank).settle v).life blank = .fresh blank := by
  rw [life_settle]
  cases v with
  | crashed crash => cases replied
  | givenUp => cases replied
  | refused e =>
      simp only [Verdict.ending, CommandError.answer] at replied
      split at replied
      · cases replied
        cases deletes
      · cases replied
  | granted result =>
      cases replied
      exact if_pos deletes

/-- A session after the deletion of its entity. -/
structure AfterDeletion (blank : E.State) (id : EntityId) (o : Options) (s : Session E) : Prop where
  active : s.phase = .active
  options : s.options = o
  identity : s.identity = some id
  life : s.life blank = .fresh blank

theorem afterDeletion_of_reply (empty : E.emptyState = .ok blank) (shared : Shared E.Memory)
    {command : Command} {patience : Nat} {reply : Reply}
    (replied : (s.serve shared ⟨.command command, patience⟩).response.ending =
      .answered (.reply reply)) (deletes : reply.deleteAfter = true) :
    AfterDeletion blank command.entityId s.options
      (s.serve shared ⟨.command command, patience⟩).session := by
  obtain ⟨live, own, id, decided⟩ := decided_of_reply empty shared replied
  obtain ⟨-, same, -⟩ := serve_command empty live own shared patience
  obtain ⟨active, options, identity⟩ :=
    settle_frame (s.awake blank) (s.verdict blank shared command patience)
  rw [same]
  exact ⟨active, options, identity.trans own, life_settle_of_deletion decided deletes⟩

theorem life_serve_foreign (live : s.Live) {command : Command}
    (foreign : s.identity ≠ some command.entityId) (shared : Shared E.Memory) (patience : Nat) :
    (s.serve shared ⟨.command command, patience⟩).session.life blank = s.life blank := by
  rw [serve, begin_foreign live foreign]
  rfl

/-- Equivalent sessions with the same life. -/
structure SameLife (blank : E.State) (t s : Session E) : Prop where
  equivalent : Equivalent blank t s
  life : t.life blank = s.life blank

theorem SameLife.life_serve (empty : E.emptyState = .ok blank) (steady : E.Steady)
    (sameLife : SameLife blank t s) {turn : Turn} (asks : turn.message.Asks)
    (shared' shared : Shared E.Memory) :
    (t.serve shared' turn).session.life blank = (s.serve shared turn).session.life blank := by
  obtain ⟨message, patience⟩ := turn
  cases sameLife.equivalent with
  | closed first second =>
      rw [(serve_terminated first shared' _).1, (serve_terminated second shared _).1]
      exact sameLife.life
  | live first second answers =>
      cases message with
      | init init => exact asks.elim
      | event record => exact asks.elim
      | command command =>
          by_cases own : s.identity = some command.entityId
          · obtain ⟨v, after, after', -⟩ :=
              answers.serve_command empty steady first second own shared' shared patience
            rw [after, after', life_settle, life_settle, sameLife.life]
          · rw [life_serve_foreign first (answers.identity ▸ own) shared' patience,
              life_serve_foreign second own shared patience]
            exact sameLife.life
      | snapshotRequest request =>
          obtain ⟨-, after, -⟩ := serve_snapshotRequest empty first request shared' patience
          obtain ⟨-, after', -⟩ := serve_snapshotRequest empty second request shared patience
          rw [after, after']
          exact sameLife.life

theorem SameLife.serve (empty : E.emptyState = .ok blank) (steady : E.Steady)
    (sameLife : SameLife blank t s) {turn : Turn} (asks : turn.message.Asks)
    (shared' shared : Shared E.Memory) :
    SameLife blank (t.serve shared' turn).session (s.serve shared turn).session :=
  ⟨(sameLife.equivalent.serve empty steady asks shared' shared).1,
    sameLife.life_serve empty steady asks shared' shared⟩

theorem SameLife.converse (empty : E.emptyState = .ok blank) (steady : E.Steady)
    (sameLife : SameLife blank t s) (shared' shared : Shared E.Memory) {turns : List Turn}
    (asks : ∀ turn ∈ turns, turn.message.Asks) :
    SameLife blank (t.converse shared' turns).session (s.converse shared turns).session := by
  induction turns generalizing t s shared' shared with
  | nil => exact sameLife
  | cons turn rest ih =>
      obtain ⟨first, others⟩ := List.forall_mem_cons.mp asks
      exact ih (sameLife.serve empty steady first shared' shared) _ _ others

/-- The session of a deleted entity is in the place of one that has just been opened. -/
theorem AfterDeletion.sameLife {o o' : Options} {id : EntityId}
    (afterDeletion : AfterDeletion blank id o s)
    (policy : o'.policy = o.policy) (tracer : o'.tracer = o.tracer) :
    SameLife blank s ((fresh o' : Session E).opened id (.fresh blank)) where
  equivalent := .live (.inr afterDeletion.active) (.inl rfl)
    ⟨afterDeletion.options ▸ policy.symm, afterDeletion.options ▸ tracer.symm,
      afterDeletion.identity,
      congrArg Incarnation.state afterDeletion.life,
      congrArg (fun life => life.position.current) afterDeletion.life⟩
  life := afterDeletion.life

/-- After a command that is answered by a deletion, a session of a steady entity answers every
list of commands and snapshot requests as a new session does that has taken an `Init` without
a snapshot for the same entity, with the same policy and tracer. After each message the two
have the same state, number and last snapshot, where a deleted entity counts as the empty state
at number 0. -/
theorem converse_renewed (empty : E.emptyState = .ok blank) (steady : E.Steady) (o o' : Options)
    (policy : o'.policy = o.policy) (tracer : o'.tracer = o.tracer)
    (shared shared' : Shared E.Memory) (turns : List Turn) (command : Command)
    (patience patience' : Nat) (reply : Reply) :
    let old := (fresh o : Session E).converse shared turns
    let last := old.session.serve old.shared ⟨.command command, patience⟩
    let new := (fresh o' : Session E).serve shared' ⟨.init ⟨command.entityId, none⟩, patience'⟩
    last.response.ending = .answered (.reply reply) → reply.deleteAfter = true →
    o'.Admits command.entityId →
      new.session.phase = .replaying ∧ new.response.ending = .quiet ∧
      ∀ later, (∀ turn ∈ later, turn.message.Asks) →
        List.Forall₂ Exchange.Alike (last.session.converse last.shared later).exchanges
          (new.session.converse new.shared later).exchanges ∧
        ∀ before after, later = before ++ after →
          let used := (last.session.converse last.shared before).session
          let unused := (new.session.converse new.shared before).session
          used.state?.getD blank = unused.state?.getD blank ∧
            used.sequenceNumber?.getD 0 = unused.sequenceNumber?.getD 0 ∧
            used.lastSnapshot?.getD 0 = unused.lastSnapshot?.getD 0 := by
  intro old last new replied deletes admits
  have afterDeletion := afterDeletion_of_reply empty old.shared replied deletes
  have open_ : old.session.phase ≠ .terminated := by
    rcases (decided_of_reply empty old.shared replied).1 with h | h <;> rw [h] <;> exact (nomatch ·)
  rw [(reached_of_converse empty shared turns open_).options] at afterDeletion
  obtain ⟨begun, quiet⟩ := @serve_init E blank (fresh o') empty rfl ⟨command.entityId, none⟩ _
    admits .none shared' patience'
  have sameLife : SameLife blank last.session new.session := by
    simp only [new]
    rw [begun]
    exact afterDeletion.sameLife policy tracer
  refine ⟨congrArg Session.phase begun, quiet, fun later asks => ⟨?_, ?_⟩⟩
  · exact sameLife.equivalent.converse empty steady _ _ asks
  · rintro before after rfl used unused
    have earlier := sameLife.converse empty steady last.shared new.shared
      (fun turn member => asks turn (List.mem_append_left after member))
    refine ⟨?_, ?_, ?_⟩
    · rw [state_getD, state_getD]
      exact congrArg Incarnation.state earlier.life
    · rw [sequenceNumber_getD _ blank, sequenceNumber_getD _ blank]
      exact congrArg (fun life => life.position.current) earlier.life
    · rw [lastSnapshot_getD _ blank, lastSnapshot_getD _ blank]
      exact congrArg (fun life => life.position.lastSnapshot) earlier.life

/-- A counter is deleted after a visit; two events, a further deletion and a request for a
snapshot follow. -/
theorem converse_renewed_visit :
    let old := (fresh .default : Session Samples.Counter.entity).converse Samples.Counter.host
      Samples.Counter.visit
    let last := old.session.serve old.shared ⟨.command (.plain 5 "a" "delete" none), 1⟩
    let new := (fresh .default : Session Samples.Counter.entity).serve Samples.Counter.host
      ⟨.init ⟨"a", none⟩, 0⟩
    let later : List Turn :=
      [⟨.command (.plain 6 "a" "increaseBy" (Samples.Counter.payload 3)), 1⟩,
        ⟨.command (.plain 7 "a" "reset" none), 1⟩,
        ⟨.command (.plain 8 "a" "delete" none), 1⟩,
        ⟨.snapshotRequest ⟨1⟩, 0⟩]
    old.session.state? = some ⟨12⟩ ∧ last.session.state? = none ∧
      List.Forall₂ Exchange.Alike (last.session.converse last.shared later).exchanges
        (new.session.converse new.shared later).exchanges ∧
      (last.session.converse last.shared (later.take 2)).session.sequenceNumber?.getD 0 =
        (new.session.converse new.shared (later.take 2)).session.sequenceNumber?.getD 0 := by
  intro old last new later
  have deleted : last.response.ending =
      .answered (.reply ⟨5, .reply (.string "deleted"), [], none, none, true⟩) := by decide
  obtain ⟨-, -, renewed⟩ := @converse_renewed Samples.Counter.entity ⟨0⟩ rfl
    Samples.Counter.steady .default .default rfl rfl Samples.Counter.host Samples.Counter.host
    Samples.Counter.visit (.plain 5 "a" "delete" none) 1 0 _ deleted rfl
    (fun _ none => by cases none)
  obtain ⟨alike, same⟩ := renewed later (by simp [later, Inbound.Asks])
  exact ⟨rfl, rfl, alike, (same (later.take 2) (later.drop 2) rfl).2.1⟩

end Session

end EntityEngine
