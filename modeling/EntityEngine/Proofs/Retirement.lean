import EntityEngine.Proofs.Attribution
import EntityEngine.Proofs.Discourse

/-!
# Workers whose entity is gone

A deletion is answered only by a session that knows of it, so a worker that is about to
deliver such an answer has a deleted entity. From then on there is one way for it to
begin the entity anew, to take up a command or a snapshot request. Any other message
ends the channel, and when the channel ends the report says that the entity was deleted.
-/

namespace EntityEngine

/-- Neither a deletion nor the start of a handler. -/
def Response.Plain {E : Entity} : Response E → Prop
  | .answered (.reply reply) => reply.deleteAfter = false
  | .calling _ => False
  | _ => True

/-- A deletion is answered only by a session that knows of it, and only an active session
starts a handler. -/
structure Step.MarksDeletions {E : Entity} (step : Step E) : Prop where
  deletes : ∀ reply, step.response = .answered (.reply reply) → reply.deleteAfter = true →
    step.session.deleted = true ∧ step.session.phase = .active
  calls : ∀ call, step.response = .calling call → step.session.phase = .active

theorem Step.marksDeletions_of_plain {E : Entity} {step : Step E} (plain : step.response.Plain) :
    step.MarksDeletions where
  deletes := by
    intro reply answered deletes
    rw [answered, Response.Plain, deletes] at plain
    cases plain
  calls := by
    intro call calling
    rw [calling] at plain
    exact plain.elim

namespace Session

variable {E : Entity} {s : Session E}

theorem plain_receiveInit (s : Session E) (shared : Shared E.Memory) (init : Init) :
    (s.receiveInit shared init).response.Plain := by
  unfold receiveInit
  split
  · trivial
  · dsimp only
    split <;> trivial

theorem plain_receiveEvent (s : Session E) (shared : Shared E.Memory) (record : EventRecord) :
    (s.receiveEvent shared record).response.Plain := by
  unfold receiveEvent
  split
  · trivial
  dsimp only
  split
  · trivial
  split
  · trivial
  split
  · trivial
  · split <;> trivial

theorem plain_receiveSnapshotRequest (s : Session E) (shared : Shared E.Memory)
    (request : SnapshotRequest) : (s.receiveSnapshotRequest shared request).response.Plain := by
  unfold receiveSnapshotRequest
  split
  · trivial
  · split <;> trivial

theorem plain_refuse (s : Session E) (shared : Shared E.Memory) (ticket : Ticket)
    (error : CommandError) : (s.refuse shared ticket error).response.Plain := by
  unfold refuse
  split
  · rfl
  · trivial

theorem carry_of_plain {step : Step E} (plain : step.response.Plain) (patience : Nat) :
    carry step patience = step := by
  unfold carry
  split
  · next call calling =>
      rw [calling] at plain
      exact plain.elim
  · rfl

theorem marksDeletions_conclude (active : s.phase = .active) (shared : Shared E.Memory)
    (ticket : Ticket)
    (ending : Except CommandError (Effect E.State E.Event)) :
    (s.conclude shared ticket ending).MarksDeletions := by
  unfold conclude
  dsimp only
  split
  · exact Step.marksDeletions_of_plain (plain_refuse _ _ _ _)
  split
  · exact Step.marksDeletions_of_plain trivial
  split
  · next result _ =>
      refine ⟨?_, fun _ calling => (nomatch calling)⟩
      rintro reply ⟨⟩ deletes
      have deletes : result.deletes = true := deletes
      simpa [succeed, commit, deletes] using active
  · exact Step.marksDeletions_of_plain (plain_refuse _ _ _ _)

theorem marksDeletions_launch (active : s.phase = .active) (shared : Shared E.Memory)
    (command : Command)
    (incarnation : Incarnation E.State) : (s.launch shared command incarnation).MarksDeletions := by
  unfold launch
  dsimp only
  split
  · exact ⟨fun _ answered => (nomatch answered), fun _ _ => active⟩
  · exact Step.marksDeletions_of_plain trivial
  · have concluded := marksDeletions_conclude active
    exact ⟨(concluded _ _ _).deletes, (concluded _ _ _).calls⟩

theorem phase_revive (s : Session E) : s.revive.1.phase = s.phase := by
  unfold revive
  dsimp only
  split <;> split <;> rfl

theorem marksDeletions_receiveCommand (active : s.phase = .active) (shared : Shared E.Memory)
    (command : Command) : (s.receiveCommand shared command).MarksDeletions := by
  have awake := s.phase_revive.trans active
  unfold receiveCommand
  split
  · generalize s.revive = result at awake
    obtain ⟨t, notices, crash | incarnation⟩ := result
    · exact Step.marksDeletions_of_plain trivial
    · have launched := marksDeletions_launch awake shared command incarnation
      exact ⟨launched.deletes, launched.calls⟩
  · exact Step.marksDeletions_of_plain trivial

theorem marksDeletions_begin (s : Session E) (shared : Shared E.Memory) (message : Inbound) :
    (s.begin shared message).MarksDeletions := by
  unfold begin
  split
  · refine Step.marksDeletions_of_plain ?_
    unfold afterTermination
    split <;> trivial
  · exact Step.marksDeletions_of_plain (plain_receiveInit _ _ _)
  · exact Step.marksDeletions_of_plain trivial
  · exact Step.marksDeletions_of_plain trivial
  · exact Step.marksDeletions_of_plain (plain_receiveEvent _ _ _)
  · exact Step.marksDeletions_of_plain trivial
  · exact marksDeletions_receiveCommand rfl _ _
  · exact Step.marksDeletions_of_plain (plain_receiveSnapshotRequest _ _ _)

end Session

namespace Worker

variable {E : Entity} {w w' : Worker E} {id : EntityId} {now : Instant} {shared : Shared E.Memory}

/-- What the worker is about agrees with its session. When it is to deliver a deletion its
entity is deleted, and the session is active then and while a handler goes on. -/
def MarksDeletions (w : Worker E) : Prop :=
  match w.stage with
  | .delivering (.reply reply) =>
    reply.deleteAfter = true → w.session.deleted = true ∧ w.session.phase = .active
  | .running _ | .sleeping .. | .hanging _ | .ended .. => w.session.phase = .active
  | _ => True

theorem marksDeletions_create {options : Options} {capacity : Nat} {passivation : Option Duration}
    (created : create options capacity passivation = .ok w) : w.MarksDeletions := by
  unfold create at created
  split at created
  · cases created
  · cases created
    trivial

theorem marksDeletions_afterMessage (now : Instant) (w : Worker E) :
    (w.afterMessage now).MarksDeletions := by
  unfold afterMessage
  split <;> trivial

theorem marksDeletions_absorb {step : Step E} (marks : step.MarksDeletions) :
    (w.absorb now step).worker.MarksDeletions := by
  obtain ⟨session, shared, notices, calls, response⟩ := step
  cases response with
  | quiet => exact marksDeletions_afterMessage _ _
  | answered message =>
      cases message with
      | reply reply => exact marks.deletes reply rfl
      | _ => trivial
  | crashed crash => trivial
  | calling call => exact marks.calls call rfl

theorem marksDeletions_runHandler (active : w.session.phase = .active) (call : Call E) :
    (w.runHandler now shared call).worker.MarksDeletions := by
  unfold runHandler
  cases Session.advance shared call with
  | mk progress after => cases progress <;> exact active

theorem Strides.marksDeletions {stride : Stride E} (h : Strides now w shared stride)
    (marks : w.MarksDeletions) :
    stride.worker.MarksDeletions := by
  unfold MarksDeletions at marks
  cases h with
  | took stage items => exact marksDeletions_absorb (w.session.marksDeletions_begin shared _)
  | ran stage =>
      rw [stage] at marks
      exact marksDeletions_runHandler marks _
  | woke stage due =>
      rw [stage] at marks
      exact marksDeletions_runHandler marks _
  | concluded stage =>
      rw [stage] at marks
      exact marksDeletions_absorb (Session.marksDeletions_conclude marks _ _ _)
  | delivered stage receiving => exact marksDeletions_afterMessage _ _
  | _ => trivial

theorem Hosts.marksDeletions (h : w.Hosts w') (marks : w.MarksDeletions) : w'.MarksDeletions := by
  unfold MarksDeletions at *
  rw [h.stage, h.session]
  exact marks

/-- The entity of the worker was deleted and not begun anew. -/
inductive Gone (id : EntityId) (w : Worker E) : Prop
  | telling {message : Outbound} (stage : w.stage = .delivering message)
      (deleted : w.session.deleted = true) (bound : w.session.Bound id)
      (begun : w.session.phase = .active ∨ w.session.phase = .terminated)
  | waiting {since : Instant} (stage : w.stage = .waiting since)
      (deleted : w.session.deleted = true) (bound : w.session.Bound id)
      (active : w.session.phase = .active)
  | reported {report : Report} (stage : w.stage = .stopped report) (deleted : report.deleted = true)

/-- The worker is about to take up a message for the live channel of the identity. -/
def TakesUp (id : EntityId) (w : Worker E) : Prop :=
  ∃ since message rest, w.stage = .waiting since ∧ w.inbound.items = message :: rest ∧
    message.Addresses id

/-- What does not address the channel of a deleted entity ends it. -/
theorem begin_of_gone {s : Session E} (deleted : s.deleted = true) (bound : s.Bound id)
    (active : s.phase = .active) {message : Inbound} (other : ¬message.Addresses id)
    (shared : Shared E.Memory) :
    (∃ out, (s.begin shared message).response = .answered out) ∧
      (s.begin shared message).session.deleted = true ∧
      (s.begin shared message).session.phase = .terminated := by
  have violated (t : Session E) (same : t.deleted = true) (violation : Violation)
      (commandId : Option UInt64) :
      (∃ out, (t.violate shared violation commandId).response = .answered out) ∧
        (t.violate shared violation commandId).session.deleted = true ∧
        (t.violate shared violation commandId).session.phase = .terminated :=
    ⟨⟨_, rfl⟩, same, rfl⟩
  cases message with
  | init init =>
      simp only [Session.begin, active]
      exact violated s deleted _ _
  | event record =>
      simp only [Session.begin, active]
      exact violated s deleted _ _
  | command command =>
      have foreign : s.identity ≠ some command.entityId := fun own => other (bound.own _ own)
      rw [Session.begin_foreign (.inr active) foreign]
      exact violated { s with phase := .active } deleted _ _
  | snapshotRequest request => exact (other trivial).elim

theorem Gone.strides (gone : w.Gone id) {stride : Stride E} (h : Strides now w shared stride)
    (untaken : ¬w.TakesUp id) : stride.worker.Gone id := by
  cases gone with
  | telling told deleted bound begun =>
      cases h with
      | delivered stage receiving =>
          simp only [afterMessage]
          split
          · exact .reported rfl deleted
          next open_ => exact .waiting rfl deleted bound (begun.resolve_right open_)
      | undelivered stage closed => exact .reported rfl deleted
      | _ => simp_all
  | waiting since deleted bound active =>
      cases h with
      | @took since' message rest stage items =>
          have other : ¬message.Addresses id := fun addresses =>
            untaken ⟨since', message, rest, stage, items, addresses⟩
          obtain ⟨⟨out, answered⟩, kept, ended⟩ := begin_of_gone deleted bound active other shared
          have bound' := bound.begin shared message
          generalize w.session.begin shared message = step at *
          obtain ⟨session, after, notices, calls, response⟩ := step
          cases answered
          exact .telling rfl kept bound' (.inr ended)
      | emptied stage items closed => exact .reported rfl deleted
      | idled stage items idle => exact .reported rfl deleted
      | _ => simp_all
  | reported stopped deleted => cases h <;> simp_all

theorem Gone.hosts (gone : w.Gone id) (h : w.Hosts w') : w'.Gone id := by
  have stage := h.stage
  have session := h.session
  cases gone with
  | telling told deleted bound begun =>
      rw [← session] at deleted bound begun
      exact .telling (stage.trans told) deleted bound begun
  | waiting since deleted bound active =>
      rw [← session] at deleted bound active
      exact .waiting (stage.trans since) deleted bound active
  | reported stopped deleted => exact .reported (stage.trans stopped) deleted

theorem begin_of_ignoring {blank : E.State} (empty : E.emptyState = .ok blank) {s : Session E}
    (waiting : s.phase = .awaitingInit) (bound : s.Bound id)
    (ignoring : s.options.ignoreInitSnapshot = true) {init : Init} (named : init.entityId = id)
    (shared : Shared E.Memory) :
    (s.begin shared (.init init)).session = s.opened id (.fresh blank) := by
  have admits : s.options.Admits init.entityId := by
    intro other expected
    rw [bound.expected, ← named] at expected
    exact (Option.some.inj expected).symm
  have seeded : Seeded s.options blank init.snapshot (.fresh blank) := by
    cases init.snapshot with
    | none => exact .none
    | some snapshot => exact .ignored ignoring
  have served := (Session.serve_init empty waiting admits seeded shared 0).1
  rw [Session.serve, Session.begin_init waiting,
    Session.carry_of_plain (s.plain_receiveInit shared init), named] at served
  rwa [Session.begin_init waiting]

theorem step?_of_waiting {since : Instant} (stage : w.stage = .waiting since) {message : Inbound}
    {rest : List Inbound} (items : w.inbound.items = message :: rest) :
    w.step? now shared =
      some (absorb now { w with inbound := { w.inbound with items := rest } }
        (w.session.begin shared message)) := by
  simp [step?, stage, take?, Queue.pop, items]

theorem Strides.options {stride : Stride E} (h : Strides now w shared stride) :
    stride.worker.session.options = w.session.options := by
  cases h with
  | started stage => rfl
  | took stage items =>
      exact (congrArg Session.options (session_absorb ..)).trans
        (w.session.options_begin shared _)
  | ran stage => rfl
  | woke stage due => rfl
  | concluded stage =>
      exact (congrArg Session.options (session_absorb ..)).trans
        (w.session.frame_conclude shared _ _).options
  | delivered stage receiving => exact congrArg Session.options (session_afterMessage ..)
  | _ => rfl

end Worker

end EntityEngine
