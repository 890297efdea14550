import Mathlib.Data.List.Induction
import EntityEngine.Proofs.Rehearsal

/-!
# Deleted and absent

A session marks its entity as deleted, and a deleted entity has no life. On a channel the
two say the same thing: a session that has begun and not ended carries the mark exactly
when it has no life. A bench replays histories without asking for the phase of its session
and may recreate a deleted entity that way, which leaves the mark standing.

The main statement says for any use of a bench when its entity is absent and when it
counts as deleted. Absent it is from the latest deleting call until something recreates
it. The mark is lifted with that if a call or a snapshot request recreates it; if a
history does, the mark stays until the entity is deleted once more.
-/

namespace EntityEngine

def Finding.deletes : Finding → Bool
  | .called (.answered out) => out.isDeleted
  | _ => false

/-- What is done with a bench that was created. -/
inductive Exercise (Event : Type) where
  | history (events : List Event)
  | trial (trial : Trial)

/-- An absent entity is recreated by this, even if it may be deleted again at once. -/
def Exercise.recreates {Event : Type} : Exercise Event → Bool
  | .history events => !events.isEmpty
  | .trial _ => true

theorem append_concat_eq_iff {α : Type} {earlier before after : List α} {last x : α} :
    earlier ++ [last] = before ++ x :: after ↔
      (earlier = before ∧ last = x ∧ after = []) ∨
        ∃ rest, after = rest ++ [last] ∧ earlier = before ++ x :: rest := by
  constructor
  · intro h
    rcases List.eq_nil_or_concat' after with rfl | ⟨rest, y, rfl⟩
    · obtain ⟨rfl, single⟩ := List.append_inj' h rfl
      exact .inl ⟨rfl, by simpa using single, rfl⟩
    · rw [← List.cons_append, ← List.append_assoc] at h
      obtain ⟨rfl, single⟩ := List.append_inj' h rfl
      exact .inr ⟨rest, by simpa using single.symm, rfl⟩
  · rintro (⟨rfl, rfl, rfl⟩ | ⟨rest, rfl, rfl⟩)
    · rfl
    · simp

namespace Session

variable {E : Entity} {blank : E.State} {s : Session E}

/-- The mark of a deletion, phase by phase. Before the first command nothing can have been
deleted, and an event needs a life that it continues. -/
inductive DeletionMarked (s : Session E) : Prop
  | waiting (waiting : s.phase = .awaitingInit) (unmarked : s.deleted = false)
  | replaying (replaying : s.phase = .replaying) (unmarked : s.deleted = false)
      (alive : s.incarnation.isNone = false)
  | active (active : s.phase = .active) (marked : s.deleted = s.incarnation.isNone)
  | closed (closed : s.phase = .terminated)

theorem DeletionMarked.marked (deletionMarked : s.DeletionMarked) (live : s.Live) :
    s.deleted = s.incarnation.isNone := by
  cases deletionMarked with
  | waiting waiting => rcases live with h | h <;> rw [waiting] at h <;> cases h
  | replaying _ unmarked alive => rw [unmarked, alive]
  | active _ marked => exact marked
  | closed closed => rcases live with h | h <;> rw [closed] at h <;> cases h

theorem deleted_awake (marked : s.deleted = s.incarnation.isNone) :
    (s.awake blank).deleted = false := by
  simp only [awake, marked]
  cases s.incarnation <;> rfl

end Session

def Verdict.deletes {S : Type} : Verdict S → Bool
  | .granted result => result.deletes
  | _ => false

theorem Verdict.deletes_ending {S : Type} (v : Verdict S) (commandId : UInt64) (id : Uuid) :
    (Finding.called (v.ending commandId id)).deletes = v.deletes := by
  cases v with
  | crashed crash => rfl
  | givenUp => rfl
  | refused e =>
      simp only [ending, CommandError.answer]
      split <;> rfl
  | granted result => rfl

namespace Session

variable {E : Entity} {blank : E.State} {s : Session E}

/-- A verdict takes the life of the entity if it deletes it, and leaves it one else. -/
theorem isNone_settle (s : Session E) (blank : E.State) (v : Verdict E.State) :
    ((s.awake blank).settle v).incarnation.isNone = v.deletes := by
  cases v with
  | granted result =>
      simp only [settle, commit, Verdict.deletes]
      split
      · next deletes => exact deletes.symm
      · next keeps => exact (Bool.eq_false_iff.mpr keeps).symm
  | _ => rfl

theorem deleted_settle (s : Session E) (v : Verdict E.State) :
    (s.settle v).deleted = (v.deletes || s.deleted) := by
  cases v with
  | granted result =>
      simp only [settle, commit, Verdict.deletes]
      split
      · next deletes => rw [deletes, Bool.true_or]
      · next keeps => rw [Bool.eq_false_iff.mpr keeps, Bool.false_or]
  | _ => rfl

theorem DeletionMarked.serve (empty : E.emptyState = .ok blank) (deletionMarked : s.DeletionMarked)
    (shared : Shared E.Memory) (turn : Turn) : (s.serve shared turn).session.DeletionMarked := by
  have served := serve_served empty s shared turn
  generalize (s.serve shared turn).session = after at *
  generalize (s.serve shared turn).response.ending = ending at *
  cases served with
  | closed closed => exact .closed closed
  | broken _ _ closed => exact .closed closed
  | opened waiting =>
      refine .replaying rfl ?_ rfl
      cases deletionMarked with
      | waiting _ unmarked => exact unmarked
      | replaying replaying => rw [waiting] at replaying; cases replaying
      | active active => rw [waiting] at active; cases active
      | closed closed => rw [waiting] at closed; cases closed
  | replayed replaying =>
      refine .replaying replaying ?_ rfl
      cases deletionMarked with
      | waiting waiting => rw [replaying] at waiting; cases waiting
      | replaying _ unmarked => exact unmarked
      | active active => rw [replaying] at active; cases active
      | closed closed => rw [replaying] at closed; cases closed
  | portrayed live => exact .active rfl (deleted_awake (deletionMarked.marked live))
  | decided live own =>
      apply DeletionMarked.active
      · exact (settle_frame _ _).1
      · rw [deleted_settle, isNone_settle, deleted_awake (deletionMarked.marked live),
        Bool.or_false]

theorem DeletionMarked.converse (empty : E.emptyState = .ok blank)
    (deletionMarked : s.DeletionMarked)
    (shared : Shared E.Memory) (turns : List Turn) :
    (s.converse shared turns).session.DeletionMarked := by
  induction turns generalizing s shared with
  | nil => exact deletionMarked
  | cons turn rest ih => exact ih (deletionMarked.serve empty shared turn) _

end Session

namespace Bench

variable {E : Entity} {blank : E.State} {b b' : Bench E} {entityId : EntityId}

def exercise (b : Bench E) : Exercise E.Event → Attempt (Except HistoryError (Bench E))
  | .history events => b.withHistory events
  | .trial trial => .ok (.ok (b.undertake trial).1)

def practise (b : Bench E) : List (Exercise E.Event) → Attempt (Except HistoryError (Bench E))
  | [] => .ok (.ok b)
  | e :: rest =>
    match b.exercise e with
    | .ok (.ok b) => b.practise rest
    | refused => refused

/-- The exercise is a trial that the bench answers by a deletion. -/
def Deletes (b : Bench E) (e : Exercise E.Event) : Prop :=
  ∃ trial, e = .trial trial ∧ (b.undertake trial).2.deletes = true

/-- What an exercise does to the life and to the mark. -/
structure Passes (entityId : EntityId) (b : Bench E) (e : Exercise E.Event) (b' : Bench E) :
    Prop where
  ready : b'.Ready entityId
  absent : b'.session.incarnation.isNone = true ↔
    b.Deletes e ∨ (b.session.incarnation.isNone = true ∧ e.recreates = false)
  /-- Only a trial lifts the mark, and only that of an absent entity. -/
  marked : b'.isDeleted = true ↔ b.Deletes e ∨ (b.isDeleted = true ∧
    (b.session.incarnation.isNone = true → ∀ trial, e ≠ .trial trial))

/-- An event that is taken in continues the life, and begins one if there is none. Nothing
else of the session changes. -/
theorem replay_eq (empty : E.emptyState = .ok blank) (b : Bench E) (event : E.Event) :
    (∃ e, b.replay event = .ok (.error e)) ∨
      ∃ life, b.replay event = .ok (.ok (b.moved (b.session.replayed life) b.shared)) := by
  unfold replay
  cases E.events.encode event with
  | error cause => exact .inl ⟨_, rfl⟩
  | ok payload =>
      simp only [Session.receiveEvent, Session.present_eq empty]
      cases (b.session.life blank).position.replay (b.sequenceNumber + 1) with
      | error violation => exact .inl ⟨_, rfl⟩
      | ok position =>
          simp only
          cases E.events.decode payload with
          | error e => exact .inl ⟨_, rfl⟩
          | ok decoded =>
              simp only [empty]
              cases E.apply (b.session.life blank).state decoded with
              | error crash => exact .inl ⟨_, rfl⟩
              | ok state => exact .inr ⟨_, rfl⟩

theorem withHistory_eq (empty : E.emptyState = .ok blank) (b : Bench E) (events : List E.Event) :
    (∃ e, b.withHistory events = .ok (.error e)) ∨
      ∃ s, b.withHistory events = .ok (.ok (b.moved s b.shared)) ∧
        (events = [] ∧ s = b.session ∨ events ≠ [] ∧ ∃ life, s = b.session.replayed life) := by
  induction events generalizing b with
  | nil => exact .inr ⟨b.session, rfl, .inl ⟨rfl, rfl⟩⟩
  | cons event rest ih =>
      rw [withHistory]
      obtain ⟨e, refused⟩ | ⟨life, taken⟩ := replay_eq empty b event
      · exact .inl ⟨e, by rw [refused]⟩
      rw [taken]
      refine (ih (b.moved (b.session.replayed life) b.shared)).imp id ?_
      rintro ⟨s, replayed, ⟨-, rfl⟩ | ⟨-, last, rfl⟩⟩
      · exact ⟨_, replayed, .inr ⟨List.cons_ne_nil _ _, life, rfl⟩⟩
      · exact ⟨_, replayed, .inr ⟨List.cons_ne_nil _ _, last, rfl⟩⟩

theorem not_deletes_history (b : Bench E) (events : List E.Event) :
    ¬ b.Deletes (.history events) := by
  rintro ⟨trial, ⟨⟩, -⟩

theorem passes_history (empty : E.emptyState = .ok blank) (ready : b.Ready entityId)
    (events : List E.Event) :
    (∃ e, b.withHistory events = .ok (.error e)) ∨
      ∃ b', b.withHistory events = .ok (.ok b') ∧ Passes entityId b (.history events) b' := by
  refine (withHistory_eq empty b events).imp id ?_
  rintro ⟨s, taken, ⟨rfl, rfl⟩ | ⟨some_, life, rfl⟩⟩
  · refine ⟨_, taken, ⟨ready.live, ready.identity⟩, ?_, ?_⟩
    · simp [moved, not_deletes_history, Exercise.recreates]
    · simp [moved, not_deletes_history, isDeleted]
  · refine ⟨_, taken, ⟨ready.live, ready.identity⟩, ?_, ?_⟩
    · simp [moved, not_deletes_history, Exercise.recreates, Session.replayed, some_]
    · simp [moved, not_deletes_history, isDeleted, Session.replayed]

theorem deletes_trial_iff (trial : Trial) :
    b.Deletes (.trial trial) ↔ (b.undertake trial).2.deletes = true := by
  constructor
  · rintro ⟨_, ⟨⟩, deletes⟩
    exact deletes
  · intro deletes
    exact ⟨trial, rfl, deletes⟩

/-- A trial wakes the entity, and what it shows says whether it deletes it. -/
theorem undertake_session (empty : E.emptyState = .ok blank) (ready : b.Ready entityId)
    (trial : Trial) :
    (b.undertake trial).1.Ready entityId ∧
      ∃ v, (b.undertake trial).1.session = (b.session.awake blank).settle v ∧
        (b.undertake trial).2.deletes = v.deletes := by
  obtain ⟨undertaken, still⟩ := undertake_eq empty ready trial
  rw [undertaken]
  refine ⟨still, ?_⟩
  cases trial with
  | call operation payload patience =>
      have own : b.session.identity =
          some (Command.plain b.nextId entityId operation (some payload)).entityId :=
        ready.identity
      obtain ⟨id, after, ended⟩ :=
        Session.serve_command empty ready.live own b.shared (patience + 1)
      refine ⟨_, after, ?_⟩
      simp only [shown, Exchange.finding, Trial.turn, ended]
      exact Verdict.deletes_ending _ _ _
  | snapshot =>
      obtain ⟨-, after, -⟩ := Session.serve_snapshotRequest empty ready.live ⟨b.nextId⟩ b.shared 0
      exact ⟨.givenUp, after, rfl⟩

theorem passes_trial (empty : E.emptyState = .ok blank) (ready : b.Ready entityId)
    (trial : Trial) : Passes entityId b (.trial trial) (b.undertake trial).1 := by
  obtain ⟨still, v, after, deletes⟩ := undertake_session empty ready trial
  refine ⟨still, ?_, ?_⟩
  · rw [after, Session.isNone_settle, deletes_trial_iff, deletes]
    simp [Exercise.recreates]
  · rw [isDeleted, after, Session.deleted_settle, deletes_trial_iff, deletes, Bool.or_eq_true]
    simp [Session.awake, isDeleted, Option.isSome_iff_ne_none]

theorem exercise_cases (empty : E.emptyState = .ok blank) (ready : b.Ready entityId)
    (e : Exercise E.Event) :
    (∃ error, b.exercise e = .ok (.error error)) ∨
      ∃ b', b.exercise e = .ok (.ok b') ∧ Passes entityId b e b' := by
  cases e with
  | history events => exact passes_history empty ready events
  | trial trial => exact .inr ⟨_, rfl, passes_trial empty ready trial⟩

theorem practise_append (b : Bench E) (earlier later : List (Exercise E.Event)) :
    b.practise (earlier ++ later) =
      match b.practise earlier with
      | .ok (.ok b) => b.practise later
      | refused => refused := by
  induction earlier generalizing b with
  | nil => rfl
  | cons e rest ih =>
      simp only [List.cons_append, practise]
      rcases b.exercise e with crash | error | after
      · rfl
      · rfl
      · exact ih after

theorem practise_concat (b : Bench E) (earlier : List (Exercise E.Event))
    (e : Exercise E.Event) :
    b.practise (earlier ++ [e]) =
      match b.practise earlier with
      | .ok (.ok b) => b.exercise e
      | refused => refused := by
  rw [practise_append]
  split
  · next after _ =>
      rw [practise]
      rcases after.exercise e with crash | error | after' <;> rfl
  · rfl

def DeletesAfter (b : Bench E) (before : List (Exercise E.Event)) (e : Exercise E.Event) : Prop :=
  ∃ b', b.practise before = .ok (.ok b') ∧ b'.Deletes e

/-- The entity is deleted by one of the exercises, and nothing after it recreates it. -/
def Gone (b : Bench E) (exercises : List (Exercise E.Event)) : Prop :=
  ∃ before e after, exercises = before ++ e :: after ∧ b.DeletesAfter before e ∧
    ∀ later ∈ after, later.recreates = false

/-- A history recreates the deleted entity, and it is not deleted again. -/
def Unnoticed (b : Bench E) (exercises : List (Exercise E.Event)) : Prop :=
  ∃ before events after, exercises = before ++ .history events :: after ∧ b.Gone before ∧
    events ≠ [] ∧
      ∀ earlier e later, after = earlier ++ e :: later →
        ¬ b.DeletesAfter (before ++ .history events :: earlier) e

theorem deletesAfter_iff {before : List (Exercise E.Event)} {e : Exercise E.Event}
    (done : b.practise before = .ok (.ok b')) : b.DeletesAfter before e ↔ b'.Deletes e := by
  constructor
  · rintro ⟨other, done', deletes⟩
    rw [done] at done'
    cases done'
    exact deletes
  · exact fun deletes => ⟨b', done, deletes⟩

theorem not_gone_nil (b : Bench E) : ¬ b.Gone [] := by
  rintro ⟨before, e, after, split, -⟩
  simp at split

theorem gone_concat (b : Bench E) (exercises : List (Exercise E.Event)) (e : Exercise E.Event) :
    b.Gone (exercises ++ [e]) ↔
      b.DeletesAfter exercises e ∨ (b.Gone exercises ∧ e.recreates = false) := by
  constructor
  · rintro ⟨before, x, after, split, deletes, absent⟩
    obtain ⟨rfl, rfl, rfl⟩ | ⟨rest, rfl, rfl⟩ := append_concat_eq_iff.mp split
    · exact .inl deletes
    · have kept := absent e (List.mem_append_right _ (List.mem_singleton_self e))
      exact .inr ⟨⟨before, x, rest, rfl, deletes,
        fun later member => absent later (List.mem_append_left _ member)⟩, kept⟩
  · rintro (deletes | ⟨⟨before, x, after, rfl, deletes, absent⟩, kept⟩)
    · exact ⟨exercises, e, [], rfl, deletes, fun _ member => nomatch member⟩
    · refine ⟨before, x, after ++ [e], by simp, deletes, ?_⟩
      intro later member
      obtain member | member := List.mem_append.mp member
      · exact absent later member
      · rwa [List.mem_singleton.mp member]

theorem not_unnoticed_nil (b : Bench E) : ¬ b.Unnoticed [] := by
  rintro ⟨before, events, after, split, -⟩
  simp at split

theorem unnoticed_concat (b : Bench E) (exercises : List (Exercise E.Event))
    (e : Exercise E.Event) :
    b.Unnoticed (exercises ++ [e]) ↔
      (b.Gone exercises ∧ ∃ events, e = .history events ∧ events ≠ []) ∨
        (b.Unnoticed exercises ∧ ¬ b.DeletesAfter exercises e) := by
  constructor
  · rintro ⟨before, events, after, split, gone, some_, kept⟩
    obtain ⟨rfl, rfl, rfl⟩ | ⟨rest, rfl, rfl⟩ := append_concat_eq_iff.mp split
    · exact .inl ⟨gone, events, rfl, some_⟩
    · refine .inr ⟨⟨before, events, rest, rfl, gone, some_, ?_⟩, kept rest e [] rfl⟩
      rintro earlier x later rfl
      exact kept earlier x (later ++ [e]) (by simp)
  · rintro (⟨gone, events, rfl, some_⟩ | ⟨⟨before, events, after, rfl, gone, some_, kept⟩, keeps⟩)
    · refine ⟨exercises, events, [], rfl, gone, some_, ?_⟩
      intro earlier x later split
      simp at split
    · refine ⟨before, events, after ++ [e], by simp, gone, some_, ?_⟩
      intro earlier x later split
      obtain ⟨rfl, rfl, rfl⟩ | ⟨rest, rfl, rfl⟩ := append_concat_eq_iff.mp split
      · exact keeps
      · exact kept earlier x rest rfl

theorem Gone.not_unnoticed {exercises : List (Exercise E.Event)} (gone : b.Gone exercises) :
    ¬ b.Unnoticed exercises := by
  induction exercises using List.reverseRecOn with
  | nil => exact not_unnoticed_nil b
  | append_singleton earlier e ih =>
      rw [unnoticed_concat]
      obtain deletes | ⟨gone, kept⟩ := (gone_concat b earlier e).mp gone
      · rintro (⟨-, events, rfl, -⟩ | ⟨-, keeps⟩)
        · obtain ⟨after, -, deletes⟩ := deletes
          exact not_deletes_history after events deletes
        · exact keeps deletes
      · rintro (⟨-, events, rfl, some_⟩ | ⟨unnoticed, -⟩)
        · simp [Exercise.recreates, some_] at kept
        · exact ih gone unnoticed

structure Practised (entityId : EntityId) (b : Bench E) (exercises : List (Exercise E.Event))
    (b' : Bench E) : Prop where
  done : b.practise exercises = .ok (.ok b')
  ready : b'.Ready entityId
  absent : b'.session.incarnation.isNone = true ↔ b.Gone exercises
  marked : b'.isDeleted = true ↔ b.Gone exercises ∨ b.Unnoticed exercises

theorem Practised.concat {exercises : List (Exercise E.Event)} {e : Exercise E.Event}
    {b₀ : Bench E} (practised : Practised entityId b₀ exercises b)
    (done : b.exercise e = .ok (.ok b')) (passes : Passes entityId b e b') :
    Practised entityId b₀ (exercises ++ [e]) b' := by
  have deletes : b₀.DeletesAfter exercises e ↔ b.Deletes e := deletesAfter_iff practised.done
  refine ⟨?_, passes.ready, ?_, ?_⟩
  · rw [practise_concat, practised.done]
    exact done
  · rw [passes.absent, gone_concat, deletes, practised.absent]
  · rw [passes.marked, gone_concat, unnoticed_concat, deletes, practised.absent, practised.marked]
    have apart : b₀.Gone exercises → ¬ b₀.Unnoticed exercises := Gone.not_unnoticed
    cases e with
    | history events =>
        simp only [not_deletes_history, Exercise.recreates, Exercise.history.injEq, ne_eq,
          exists_eq_left', Bool.not_eq_eq_eq_not, Bool.not_false, List.isEmpty_iff, false_or,
          not_false_eq_true, and_true]
        tauto
    | trial trial =>
        simp only [Exercise.recreates, Exercise.trial.injEq, reduceCtorEq, ne_eq, false_and,
          exists_const, false_or, or_false, and_false, Bool.true_eq_false, forall_eq', imp_false]
        tauto

theorem practise_cases (empty : E.emptyState = .ok blank) {b₀ : Bench E}
    (ready : b₀.Ready entityId) (alive : b₀.session.incarnation.isNone = false)
    (unmarked : b₀.isDeleted = false) (exercises : List (Exercise E.Event)) :
    (∃ error, b₀.practise exercises = .ok (.error error)) ∨
      ∃ b, Practised entityId b₀ exercises b := by
  induction exercises using List.reverseRecOn with
  | nil =>
      refine .inr ⟨b₀, rfl, ready, ?_, ?_⟩
      · simp [alive, not_gone_nil]
      · simp [unmarked, not_gone_nil, not_unnoticed_nil]
  | append_singleton earlier e ih =>
      obtain ⟨error, refused⟩ | ⟨b, practised⟩ := ih
      · exact .inl ⟨error, by rw [practise_concat, refused]⟩
      obtain ⟨error, refused⟩ | ⟨b', done, passes⟩ := exercise_cases empty practised.ready e
      · exact .inl ⟨error, by rw [practise_concat, practised.done]; exact refused⟩
      · exact .inr ⟨b', practised.concat done passes⟩

/-- For an entity that has an empty state, a session on a channel that has begun and not
ended counts its entity as deleted exactly when it has no life, after any messages and with
any patience. A bench can be created and its session never ends; after any exercises that
are not refused the entity is absent exactly when it was deleted and nothing has recreated
it since. It counts as deleted then, and also when a history was what recreated it and it
has not been deleted again. -/
theorem practise_marks (empty : E.emptyState = .ok blank) :
    (∀ (o : Options) (shared : Shared E.Memory) (turns : List Turn),
      let s := ((Session.fresh o : Session E).converse shared turns).session
      s.Live → (s.deleted = true ↔ s.incarnation = none)) ∧
    ∀ (entityId : EntityId) (shared : Shared E.Memory),
      ∃ b₀, create entityId shared = .ok b₀ ∧ ∀ exercises,
        (∃ error, b₀.practise exercises = .ok (.error error)) ∨
          ∃ b, b₀.practise exercises = .ok (.ok b) ∧ b.session.Live ∧
            (b.session.incarnation = none ↔ b₀.Gone exercises) ∧
            (b.isDeleted = true ↔ b₀.Gone exercises ∨ b₀.Unnoticed exercises) := by
  constructor
  · intro o shared turns s live
    have deletionMarked : s.DeletionMarked := Session.DeletionMarked.converse empty
      (.waiting rfl rfl) shared turns
    rw [deletionMarked.marked live, Option.isNone_iff_eq_none]
  · intro entityId shared
    obtain ⟨created, -, opened⟩ := create_eq empty entityId shared
    let b₀ : Bench E := ⟨(channel E entityId shared).session, (channel E entityId shared).shared, 1⟩
    have opened : b₀.session = _ := opened
    have ready : b₀.Ready entityId := by
      constructor
      · exact .inl (congrArg Session.phase opened)
      · exact congrArg Session.identity opened
    have alive : b₀.session.incarnation.isNone = false :=
      congrArg (fun s => s.incarnation.isNone) opened
    have unmarked : b₀.isDeleted = false := congrArg Session.deleted opened
    refine ⟨b₀, created, fun exercises => ?_⟩
    refine (practise_cases empty ready alive unmarked exercises).imp id ?_
    rintro ⟨b, practised⟩
    refine ⟨b, practised.done, practised.ready.live, ?_, practised.marked⟩
    rw [← practised.absent, Option.isNone_iff_eq_none]

/-- A counter is deleted and recreated by a history: it has a life again, at five, and
still counts as deleted. -/
theorem practise_marks_recreated :
    let exercises : List (Exercise Samples.CounterEvent) :=
      [.trial (.call "delete" .null 0), .history [.increased 5]]
    ∃ b₀ b : Bench Samples.Counter.entity, create ⟨"c"⟩ Samples.Counter.host = .ok b₀ ∧
      b₀.practise exercises = .ok (.ok b) ∧ b.session.Live ∧ b.session.state? = some ⟨5⟩ ∧
      ¬ b₀.Gone exercises ∧ b.isDeleted = true := by
  refine ⟨_, _, rfl, rfl, .inr rfl, rfl, ?_, rfl⟩
  intro gone
  obtain ⟨after, -, deletes⟩ | ⟨-, kept⟩ :=
    (gone_concat (E := Samples.Counter.entity) _ [.trial (.call "delete" .null 0)]
      (.history [.increased 5])).mp gone
  · exact not_deletes_history after _ deletes
  · cases kept

/-- A counter that is deleted is absent and counts as deleted, until it is read. -/
theorem practise_marks_counter :
    let exercises : List (Exercise Samples.CounterEvent) :=
      [.history [.increased 5], .trial (.call "delete" .null 0)]
    Samples.Counter.entity.emptyState = .ok ⟨0⟩ ∧
      ∃ b₀ b : Bench Samples.Counter.entity, create ⟨"c"⟩ Samples.Counter.host = .ok b₀ ∧
        b₀.practise exercises = .ok (.ok b) ∧ b₀.Gone exercises ∧ b.isDeleted = true ∧
        (b.undertake (.call "get" .null 0)).1.isDeleted = false := by
  intro exercises
  refine ⟨rfl, ?_⟩
  obtain ⟨b₀, created, reached⟩ :=
    (@practise_marks Samples.Counter.entity ⟨0⟩ rfl).2 ⟨"c"⟩ Samples.Counter.host
  cases created
  obtain ⟨error, refused⟩ | ⟨b, done, -, absent, marked⟩ := reached exercises
  · cases refused
  · cases done
    have gone := absent.mp rfl
    exact ⟨_, _, rfl, rfl, gone, marked.mpr (.inl gone), rfl⟩

end Bench

end EntityEngine
