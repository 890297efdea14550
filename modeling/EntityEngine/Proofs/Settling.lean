import EntityEngine.Proofs.Crowd

/-!
# Settling is one order of the happenings

When a registry settles, its workers take turns and their ends are dealt with in an
order of its own. Every turn is made of the steps of one worker, and the end of a worker
is recorded and published in one go, so what settling leaves is also left by a run in
which only these things happen. The two differ in the counts of the turns, which nothing
else looks at.
-/

namespace EntityEngine

/-- Something that happens without callers and hosts, and without time passing. -/
def Happening.isInner : Happening → Bool
  | .work _ | .record _ | .publish _ => true
  | _ => false

namespace Registry

variable {E : Entity} {r r' r'' : Registry E} {generation : Nat}

/-- The registry with other counts of turns. -/
def counting (r : Registry E) (turns : Nat) (lastTurns : List Nat) : Registry E :=
  { r with turns, lastTurns }

theorem work_counting (r : Registry E) (turns : Nat) (lastTurns : List Nat) (generation : Nat) :
    (r.counting turns lastTurns).work generation =
      (r.work generation).counting turns lastTurns := by
  unfold work
  simp only [counting]
  split
  · rfl
  · split <;> rfl

theorem next_counting (r : Registry E) (turns : Nat) (lastTurns : List Nat)
    (waiters : List Waiter) {happening : Happening} (inner : happening.isInner = true) :
    ∃ after : Registry E, (⟨r, waiters⟩ : Crowd E).next happening = ⟨after, waiters⟩ ∧
      (⟨r.counting turns lastTurns, waiters⟩ : Crowd E).next happening =
        ⟨after.counting turns lastTurns, waiters⟩ := by
  cases happening with
  | work generation =>
      exact ⟨_, rfl, congrArg (Crowd.mk · waiters) (r.work_counting turns lastTurns generation)⟩
  | record generation => exact ⟨_, rfl, rfl⟩
  | publish generation => exact ⟨_, rfl, rfl⟩
  | _ => cases inner

theorem run_counting (r : Registry E) (turns : Nat) (lastTurns : List Nat) (waiters : List Waiter)
    {happenings : List Happening} (inner : ∀ happening ∈ happenings, happening.isInner = true) :
    ∃ after : Registry E, (⟨r, waiters⟩ : Crowd E).run happenings = ⟨after, waiters⟩ ∧
      (⟨r.counting turns lastTurns, waiters⟩ : Crowd E).run happenings =
        ⟨after.counting turns lastTurns, waiters⟩ := by
  induction happenings generalizing r with
  | nil => exact ⟨r, rfl, rfl⟩
  | cons happening later ih =>
      obtain ⟨first, rest⟩ := List.forall_mem_cons.mp inner
      obtain ⟨after, plain, counted⟩ := r.next_counting turns lastTurns waiters first
      simp only [Crowd.run, List.foldl_cons]
      rw [plain, counted]
      exact ih after rest

/-- Inner happenings lead from one registry to the other. -/
def Leads (r r' : Registry E) : Prop :=
  ∃ happenings : List Happening, (∀ happening ∈ happenings, happening.isInner = true) ∧
    ∀ waiters, (⟨r, waiters⟩ : Crowd E).run happenings =
      ⟨r'.counting r.turns r.lastTurns, waiters⟩

theorem Leads.refl (r : Registry E) : r.Leads r := ⟨[], List.forall_mem_nil _, fun _ => rfl⟩

theorem Leads.trans (h : r.Leads r') (h' : r'.Leads r'') : r.Leads r'' := by
  obtain ⟨happenings, inner, reached⟩ := h
  obtain ⟨later, inner', reached'⟩ := h'
  refine ⟨happenings ++ later, ?_, fun waiters => ?_⟩
  · intro happening member
    exact (List.mem_append.mp member).elim (inner _) (inner' _)
  · obtain ⟨after, plain, counted⟩ := r'.run_counting r.turns r.lastTurns waiters inner'
    have same : after = r''.counting r'.turns r'.lastTurns :=
      congrArg Crowd.registry (plain.symm.trans (reached' waiters))
    calc (⟨r, waiters⟩ : Crowd E).run (happenings ++ later)
        = ((⟨r, waiters⟩ : Crowd E).run happenings).run later := List.foldl_append
      _ = (⟨r'.counting r.turns r.lastTurns, waiters⟩ : Crowd E).run later := by rw [reached]
      _ = ⟨after.counting r.turns r.lastTurns, waiters⟩ := counted
      _ = ⟨r''.counting r.turns r.lastTurns, waiters⟩ := by rw [same]; rfl

theorem Leads.counted (h : r.Leads r') (turns : Nat) (lastTurns : List Nat) :
    r.Leads (r'.counting turns lastTurns) := h

theorem leads_next (happening : Happening) (inner : happening.isInner = true)
    (next : ∀ waiters, (⟨r, waiters⟩ : Crowd E).next happening =
      ⟨r'.counting r.turns r.lastTurns, waiters⟩) : r.Leads r' :=
  ⟨[happening], by simpa using inner, next⟩

theorem stepped_stepped {stride : Stride E} (unfinished : stride.worker.hasEnded = false)
    (generation : Nat) (next : Stride E) :
    (r.stepped generation stride).stepped generation next = r.stepped generation next := by
  simp only [stepped, unfinished, Bool.false_eq_true, if_false, List.set_set]

theorem leads_stepped {w : Worker E} {stride : Stride E}
    (found : r.workers[generation]? = some w) (step : w.step? r.now r.shared = some stride) :
    r.Leads (r.stepped generation stride) :=
  leads_next (.work generation) rfl fun waiters => by
    rw [Crowd.next, work_of_step? found step]
    rfl

/-- Every step on the way to the next handler is one happening. -/
theorem leads_untilHandler (within : generation < r.workers.length) (limit : Nat)
    (stride : Stride E) :
    (r.stepped generation stride).Leads
      (r.stepped generation (untilHandler r.now limit stride)) := by
  induction limit generalizing stride with
  | zero => exact .refl _
  | succ limit ih =>
      unfold untilHandler
      split
      · exact .refl _
      · split
        · exact .refl _
        · next next step =>
            have held : (r.stepped generation stride).workers[generation]? =
                some stride.worker := by
              simp only [stepped, List.getElem?_set_self within]
            have first := leads_stepped held step
            rw [stepped_stepped (Worker.hasEnded_of_step? step)] at first
            exact Leads.trans first (ih ⟨next.worker, next.shared, stride.notices ++ next.notices,
              stride.calls ++ next.calls⟩)

theorem leads_moveWorker {account : Account E Unit}
    (moved : r.moveWorker generation = some account) : r.Leads account.registry := by
  unfold moveWorker at moved
  simp only [Option.bind_eq_bind, Option.bind_eq_some_iff] at moved
  obtain ⟨w, found, stride, turn, rest⟩ := moved
  cases rest
  suffices leads : r.Leads (r.stepped generation stride) from leads.counted _ _
  have within := (List.getElem?_eq_some_iff.mp found).1
  unfold turn? at turn
  split at turn
  · exact leads_stepped found turn
  · exact leads_stepped found turn
  · obtain ⟨first, step, rfl⟩ := Option.map_eq_some_iff.mp turn
    exact (leads_stepped found step).trans (leads_untilHandler within _ first)

theorem leads_supervise {account : Account E Unit}
    (supervised : r.supervise generation = some account) : r.Leads account.registry := by
  unfold supervise at supervised
  split at supervised
  · cases supervised
    have recorded : r.Leads (r.record generation) :=
      leads_next (.record generation) rfl fun _ => rfl
    have published : (r.record generation).Leads ((r.record generation).publish generation) :=
      leads_next (.publish generation) rfl fun _ => rfl
    exact recorded.trans published
  · cases supervised

theorem leads_move? {account : Account E Unit} (moved : r.move? generation = some account) :
    r.Leads account.registry := by
  unfold move? at moved
  cases worked : r.moveWorker generation with
  | some first =>
      rw [worked] at moved
      cases moved
      exact leads_moveWorker worked
  | none =>
      rw [worked] at moved
      exact leads_supervise moved

theorem leads_sweep (r : Registry E) (order : List Nat) : r.Leads (r.sweep order).registry := by
  induction order generalizing r with
  | nil => exact .refl r
  | cons generation rest ih =>
      unfold sweep
      split
      · exact ih r
      · next first moved => exact (leads_move? moved).trans (ih first.registry)

theorem leads_rounds (order : List Nat) (limit : Nat) (r : Registry E) :
    r.Leads (rounds order limit r).registry := by
  induction limit generalizing r with
  | zero => exact .refl r
  | succ limit ih =>
      have swept := r.leads_sweep order
      simp only [rounds]
      split
      · exact swept.trans (ih _)
      · exact swept

/-- What settling leaves is left by a run. -/
theorem exists_run_settle (r : Registry E) :
    ∃ happenings : List Happening, (∀ happening ∈ happenings, happening.isInner = true) ∧
      ∀ waiters, (⟨r, waiters⟩ : Crowd E).run happenings =
        ⟨r.settle.registry.counting r.turns r.lastTurns, waiters⟩ :=
  leads_rounds r.agenda r.roundLimit r

end Registry

namespace Crowd

variable {E : Entity}

/-- A wait that takes no time begins and ends. -/
theorem run_waitStopped (c : Crowd E) (id : EntityId) {report : Option Report} {r : Registry E}
    (waited : c.registry.waitStopped id = (r, .reported report)) :
    (c.run [.beginWait id, .endWait c.waiters.length]).registry = r := by
  unfold Registry.waitStopped at waited
  cases held : c.registry.roster.generation? id with
  | none =>
      rw [held] at waited
      cases waited
      simp [run, next, beginWait, endWait, held]
  | some generation =>
      rw [held] at waited
      simp only at waited
      split at waited
      · next report' roster collected =>
          cases waited
          simp [run, next, beginWait, endWait, held, collected]
      · cases waited

end Crowd

end EntityEngine
