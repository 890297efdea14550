import EntityEngine.Proofs.Remembrance
import EntityEngine.Proofs.Separation

/-!
# Waiting for a worker to stop

Who waits for the worker of an identity notes which worker has the entry, watches the
status of that worker, and comes back to the registry to drop the entry. Meanwhile others
may drop it, open the identity again, use the new worker and stop it, as often as they
like. The main statement is that the answer is nevertheless the report of the worker that
was noted, that it comes only after that worker is published, that all who noted the same
worker get the same, and that no other worker loses its entry by it.

Two facts hold along every run. What a post tells of an ended worker is what became of
that worker, however far its end has been dealt with. And what was learnt of a worker by
watching it stays true, so that the time between watching and coming back does not matter.
-/

namespace EntityEngine

/-- What is known of the end of a worker, before and after it is published. -/
def Status.report? : Status → Option (Option Report)
  | working => none
  | finished report => some report
  | recorded report => some report
  | published report => some report

namespace Worker

variable {E : Entity} {w w' : Worker E}

/-- What became of a worker: it has stopped with a report, or failed without one. -/
inductive Ends (w : Worker E) : Option Report → Prop
  | stopped {report : Report} (stopped : w.stage = .stopped report) : Ends w (some report)
  | failed {crash : Crash} (failed : w.stage = .failed crash) : Ends w none

def ending? (w : Worker E) : Option (Option Report) :=
  if w.hasEnded then some w.report? else none

theorem ending?_eq_some_iff {report : Option Report} :
    w.ending? = some report ↔ w.Ends report := by
  unfold ending? hasEnded report?
  constructor
  · intro ended
    cases stage : w.stage with
    | stopped told =>
        rw [stage] at ended
        cases ended
        exact .stopped stage
    | failed crash =>
        rw [stage] at ended
        cases ended
        exact .failed stage
    | _ =>
        rw [stage] at ended
        cases ended
  · intro ends
    cases ends with
    | stopped stage => rw [stage]; rfl
    | failed stage => rw [stage]; rfl

theorem ending?_congr (stage : w'.stage = w.stage) : w'.ending? = w.ending? := by
  unfold ending? hasEnded report?
  rw [stage]

theorem ending?_of_unfinished (unfinished : w.hasEnded = false) : w.ending? = none := by
  rw [ending?, unfinished]
  rfl

theorem ending?_of_ended (ended : w.hasEnded = true) : w.ending? = some w.report? :=
  if_pos ended

end Worker

namespace Roster

variable {r r' : Roster} {id : EntityId} {generation : Nat} {report : Option Report}

def report? (r : Roster) (generation : Nat) : Option (Option Report) :=
  (r.status? generation).bind Status.report?

theorem report?_of_posts (posts : r'.posts = r.posts) (generation : Nat) :
    r'.report? generation = r.report? generation := by
  unfold report? status?
  rw [posts]

theorem report?_of_status {status : Status} (here : r.status? generation = some status) :
    r.report? generation = status.report? := by
  rw [report?, here]
  rfl

theorem report?_of_post {status : Status} (found : r.posts[generation]? = some ⟨id, status⟩) :
    r.report? generation = status.report? :=
  report?_of_status (congrArg (Option.map _) found)

theorem report?_setStatus {status : Status} (told : r.report? generation = status.report?)
    (other : Nat) : (r.setStatus generation status).report? other = r.report? other := by
  rw [report?, status?_setStatus]
  split
  · next same =>
      subst same
      unfold report? at told ⊢
      cases here : r.status? generation with
      | none => rfl
      | some before =>
          rw [here] at told
          exact told.symm
  · rfl

theorem report?_enter (r : Roster) (id : EntityId) (generation : Nat) :
    (r.enter id).report? generation =
      if generation = r.nextGeneration then none else r.report? generation := by
  rw [report?, status?_enter]
  split <;> rfl

theorem report?_finish (working : r.status? generation = some .working) (report : Option Report)
    (other : Nat) : (r.finish generation report).report? other =
      if generation = other then some report else r.report? other := by
  obtain ⟨⟨id, status⟩, found, rfl⟩ := Option.map_eq_some_iff.mp working
  simp only [finish, found]
  rw [report?, status?_setStatus]
  split
  · next same =>
      subst same
      rw [working]
      rfl
  · rfl

theorem report?_record (r : Roster) (now : Instant) (generation other : Nat) :
    (r.record now generation).1.report? other = r.report? other := by
  cases found : r.posts[generation]? with
  | none => simp only [record, found]
  | some post =>
      obtain ⟨id, status⟩ := post
      cases status with
      | finished report =>
          have told : r.report? generation = (Status.recorded report).report? :=
            (report?_of_post found).trans rfl
          exact (report?_of_posts (posts_record now found rfl) other).trans
            (report?_setStatus told other)
      | _ => simp only [record, found]

theorem report?_publish (r : Roster) (generation other : Nat) :
    (r.publish generation).report? other = r.report? other := by
  unfold publish
  split
  · next id report found =>
      have told : r.report? generation = (Status.published report).report? :=
        (report?_of_post found).trans rfl
      exact report?_setStatus told other
  · rfl

/-- Whatever its supervision has done so far, it publishes what it was told. -/
theorem status?_supervised (told : r.report? generation = some report) (now : Instant) :
    ((r.record now generation).1.publish generation).status? generation =
      some (.published report) := by
  obtain ⟨status, here, told⟩ := Option.bind_eq_some_iff.mp told
  obtain ⟨⟨id, status⟩, found, rfl⟩ := Option.map_eq_some_iff.mp here
  cases status with
  | working => cases told
  | finished last =>
      cases told
      have recorded : (r.record now generation).1.posts[generation]? =
          some ⟨id, .recorded report⟩ := by
        rw [posts_record now found rfl, setStatus, List.getElem?_modify_eq, found]
        rfl
      rw [publish, recorded]
      simp only
      rw [status?_setStatus, if_pos rfl, status?, recorded]
      rfl
  | recorded last =>
      cases told
      simp only [record, found, publish]
      rw [status?_setStatus, if_pos rfl, here]
      rfl
  | published last =>
      cases told
      simp only [record, found, publish]
      exact here

end Roster

namespace Registry

variable {E : Entity} {r r' : Registry E} {id : EntityId} {generation : Nat}

/-- Every post tells what became of its worker. -/
def Accounted (r : Registry E) : Prop :=
  ∀ generation, r.roster.report? generation = r.workers[generation]?.bind Worker.ending?

theorem accounted_create (settings : Settings) (tracer : Tracer) (supply : Nat → Uuid) :
    (create settings tracer supply : Registry E).Accounted :=
  fun _ => rfl

theorem Accounted.tells (accounted : r.Accounted) {roster : Roster}
    (tells : ∀ generation, roster.report? generation = r.roster.report? generation) :
    ({ r with roster } : Registry E).Accounted :=
  fun generation => (tells generation).trans (accounted generation)

theorem Accounted.modifyWorker (accounted : r.Accounted) {f : Worker E → Worker E}
    (hosts : ∀ w, r.workers[generation]? = some w → w.Hosts (f w)) :
    (r.modifyWorker generation f).Accounted := by
  intro other
  refine (accounted other).trans ?_
  simp only [Registry.modifyWorker, List.getElem?_modify]
  cases held : r.workers[other]? with
  | none => rfl
  | some w =>
      by_cases same : generation = other
      · subst same
        simpa using (Worker.ending?_congr (hosts w held).stage).symm
      · simp [same]

theorem Accounted.addWorker (accounted : r.Accounted) (orderly : r.Orderly) {worker : Worker E}
    (unfinished : worker.hasEnded = false) (id : EntityId) :
    (r.addWorker id worker).Accounted := by
  intro other
  have length : r.workers.length = r.roster.nextGeneration := orderly.paired
  simp only [Registry.addWorker]
  rw [Roster.report?_enter]
  split
  · next last =>
      rw [last, ← length, List.getElem?_concat_length]
      exact (Worker.ending?_of_unfinished unfinished).symm
  · next earlier =>
      rw [accounted other]
      congr 1
      by_cases within : other < r.workers.length
      · exact (List.getElem?_append_left within).symm
      · rw [List.getElem?_eq_none (by omega), List.getElem?_eq_none]
        rw [List.length_append, List.length_singleton]
        omega

theorem Accounted.stepped (accounted : r.Accounted) (orderly : r.Orderly) {w : Worker E}
    {stride : Stride E} (found : r.workers[generation]? = some w)
    (step : w.step? r.now r.shared = some stride) : (r.stepped generation stride).Accounted := by
  have working := orderly.employed generation w found (Worker.hasEnded_of_step? step)
  have bound := (List.getElem?_eq_some_iff.mp found).1
  intro other
  simp only [Registry.stepped, List.getElem?_set]
  by_cases same : generation = other
  · subst same
    rw [if_pos rfl, if_pos bound, Option.bind_some]
    cases ended : stride.worker.hasEnded with
    | true =>
        rw [if_pos rfl, Roster.report?_finish working, if_pos rfl]
        exact (Worker.ending?_of_ended ended).symm
    | false =>
        rw [if_neg Bool.false_ne_true, Worker.ending?_of_unfinished ended]
        exact Roster.report?_of_status working
  · rw [if_neg same, ← accounted other]
    split
    · exact (Roster.report?_finish working _ _).trans (if_neg same)
    · rfl

theorem Becomes.accounted (h : r.Becomes r') (orderly : r.Orderly) (accounted : r.Accounted) :
    r'.Accounted := by
  have reaped : r.reap.1.Accounted := accounted.tells fun _ => rfl
  have cleared (id : EntityId) : (r.cleared id).Accounted := accounted.tells fun _ => rfl
  cases h with
  | same => exact accounted
  | reaped => exact reaped
  | cleared untaken => exact cleared _
  | @entered id worker untaken createsWorker =>
      exact (cleared id).addWorker (orderly.cleared id) (Worker.hasEnded_create createsWorker) id
  | handled => exact reaped.modifyWorker fun _ _ => .cloned
  | hosted hosts => exact accounted.modifyWorker hosts
  | collected collected =>
      exact accounted.tells (Roster.report?_of_posts (Roster.posts_collect? collected))
  | worked found step => exact accounted.stepped orderly found step
  | recorded => exact accounted.tells (r.roster.report?_record r.now _)
  | published => exact accounted.tells (r.roster.report?_publish _)
  | passed => exact accounted

structure Retired (r : Registry E) (id : EntityId) (generation : Nat) (report : Option Report) :
    Prop where
  identity : r.roster.identity? generation = some id
  published : r.roster.status? generation = some (.published report)
  ended : ∃ w, r.workers[generation]? = some w ∧ w.Ends report

theorem Accounted.exists_ended (accounted : r.Accounted) {report : Option Report}
    (told : r.roster.report? generation = some report) :
    ∃ w, r.workers[generation]? = some w ∧ w.Ends report := by
  rw [accounted generation] at told
  obtain ⟨w, held, ended⟩ := Option.bind_eq_some_iff.mp told
  exact ⟨w, held, Worker.ending?_eq_some_iff.mp ended⟩

theorem Accounted.retired (accounted : r.Accounted) {report : Option Report}
    (identity : r.roster.identity? generation = some id)
    (published : r.roster.status? generation = some (.published report)) :
    r.Retired id generation report :=
  ⟨identity, published, accounted.exists_ended (Roster.report?_of_status published)⟩

/-- A worker that has ended is published by its supervision with what became of it. -/
theorem Accounted.supervised (accounted : r.Accounted) {w : Worker E} {report : Option Report}
    (held : r.workers[generation]? = some w) (ends : w.Ends report) :
    ((r.record generation).publish generation).roster.status? generation =
      some (.published report) := by
  refine Roster.status?_supervised ?_ r.now
  rw [accounted generation, held]
  exact Worker.ending?_eq_some_iff.mpr ends

end Registry

namespace Crowd

variable {E : Entity} {c : Crowd E} {index : Nat}

/-- Every worker that has ended is accounted for, and every waiter awaits its worker. -/
structure Reliable (c : Crowd E) : Prop where
  orderly : c.registry.Orderly
  accounted : c.registry.Accounted
  awaits : ∀ index waiter, c.waiters[index]? = some waiter →
    c.Awaits index waiter.entityId waiter.generation

theorem reliable_start (settings : Settings) (tracer : Tracer) (supply : Nat → Uuid) :
    (start settings tracer supply : Crowd E).Reliable :=
  ⟨Registry.orderly_create settings tracer supply,
    Registry.accounted_create settings tracer supply, fun _ _ held => (nomatch held)⟩

theorem answer_of_new {happening : Happening} {waiter : Waiter} (absent : c.waiters[index]? = none)
    (held : (c.next happening).waiters[index]? = some waiter) : waiter.answer = none := by
  cases happening with
  | beginWait id =>
      simp only [next, beginWait] at held
      split at held
      · rw [List.getElem?_append_right (List.getElem?_eq_none_iff.mp absent)] at held
        have member := List.mem_of_getElem? held
        rw [List.mem_singleton.mp member]
      · cases absent.symm.trans held
  | endWait other =>
      have modified := (congrArg (·[index]?) (waiters_endWait c other)).symm.trans held
      simp only [List.getElem?_modify, absent] at modified
      cases modified
  | _ =>
      have same := (congrArg (·[index]?) (waiters_next (by simp) (by simp))).symm.trans held
      cases absent.symm.trans same

theorem Reliable.next (reliable : c.Reliable) (happening : Happening) :
    (c.next happening).Reliable where
  orderly := (c.becomes_next happening).orderly reliable.orderly
  accounted := (c.becomes_next happening).accounted reliable.orderly reliable.accounted
  awaits := by
    intro index waiter held
    cases before : c.waiters[index]? with
    | none =>
        refine ⟨none, ?_, fun _ told => by cases told⟩
        rw [held, ← answer_of_new before held]
    | some earlier =>
        have awaits := (reliable.awaits index earlier before).next reliable.orderly happening
        obtain ⟨answer, held', -⟩ := id awaits
        cases held.symm.trans held'
        exact awaits

/-- Nothing but its own coming back changes a waiter. -/
theorem getElem?_waiters_next {waiter : Waiter} (held : c.waiters[index]? = some waiter)
    {happening : Happening} (other : happening ≠ .endWait index) :
    (c.next happening).waiters[index]? = some waiter := by
  cases happening with
  | beginWait id =>
      simp only [next, beginWait]
      split
      · exact (List.getElem?_append_left (List.getElem?_eq_some_iff.mp held).1).trans held
      · exact held
  | endWait ended =>
      have different : ended ≠ index := fun same => other (congrArg _ same)
      exact (congrArg (·[index]?) (waiters_endWait c ended)).trans
        ((List.getElem?_modify_ne _ _ different).trans held)
  | _ => exact (congrArg (·[index]?) (waiters_next (by simp) (by simp))).trans held

def sees? (c : Crowd E) (index : Nat) : Option (Option Report) :=
  c.waiters[index]?.bind fun waiter =>
    (c.registry.roster.status? waiter.generation).bind Status.published?

theorem Awaits.sees? {id : EntityId} {generation : Nat} (awaits : c.Awaits index id generation) :
    c.sees? index = (c.registry.roster.status? generation).bind Status.published? := by
  obtain ⟨answer, held, -⟩ := awaits
  rw [Crowd.sees?, held]
  rfl

theorem sees?_eq_some_iff {id : EntityId} {generation : Nat} {report : Option Report}
    (awaits : c.Awaits index id generation) :
    c.sees? index = some report ↔
      c.registry.roster.status? generation = some (.published report) := by
  rw [awaits.sees?, Option.bind_eq_some_iff]
  constructor
  · rintro ⟨status, here, published⟩
    rw [here, Status.published?_eq_some_iff.mp published]
  · intro published
    exact ⟨_, published, rfl⟩

theorem Reliable.sees?_next (reliable : c.Reliable) {report : Option Report}
    (seen : c.sees? index = some report) (happening : Happening) :
    (c.next happening).sees? index = some report := by
  obtain ⟨waiter, held, -⟩ := Option.bind_eq_some_iff.mp seen
  have awaits := reliable.awaits index waiter held
  apply (sees?_eq_some_iff (awaits.next reliable.orderly happening)).mpr
  exact published_next reliable.orderly ((sees?_eq_some_iff awaits).mp seen) happening

end Crowd

namespace Roster

variable {r : Roster} {id : EntityId} {generation : Nat}

def release (r : Roster) (id : EntityId) (generation : Nat) : Roster :=
  if r.generation? id = some generation then { r with live := r.live.erase id.text } else r

theorem collect?_of_published {report : Option Report}
    (published : r.status? generation = some (.published report)) (id : EntityId) :
    r.collect? id generation = some (report, r.release id generation) := by
  obtain ⟨⟨owner, status⟩, found, rfl⟩ := Option.map_eq_some_iff.mp published
  simp only [collect?, found]
  rfl

theorem generation?_release {other : EntityId} {kept : Nat} (different : kept ≠ generation)
    (found : r.generation? other = some kept) :
    (r.release id generation).generation? other = some kept := by
  unfold release
  split
  · next held =>
      have distinct : other ≠ id := by
        rintro rfl
        rw [held] at found
        exact different (Option.some.inj found).symm
      rw [generation?_erase, if_neg distinct]
      exact found
  · exact found

end Roster

/-- A waiter that knows the report of its worker comes back to the registry, drops the entry
if it is still that of its worker, and answers. -/
def Crowd.leave {E : Entity} (c : Crowd E) (index : Nat) (report : Option Report) : Crowd E :=
  match c.waiters[index]? with
  | some ⟨id, generation, none⟩ =>
    ⟨{ c.registry with roster := c.registry.roster.release id generation },
      c.waiters.set index ⟨id, generation, some report⟩⟩
  | _ => c

/-- A crowd in which some time passes between a waiter's learning that its worker is
published and its coming back to the registry. -/
structure Watch (E : Entity) where
  crowd : Crowd E
  learnt : Nat → Option (Option Report)

inductive Moment where
  | happens (happening : Happening)
  | looks (index : Nat)

namespace Watch

variable {E : Entity} {w : Watch E} {id : EntityId} {generation index : Nat}

def start (settings : Settings) (tracer : Tracer) (supply : Nat → Uuid) : Watch E :=
  ⟨.start settings tracer supply, fun _ => none⟩

def look (w : Watch E) (index : Nat) : Watch E :=
  match w.crowd.sees? index with
  | some report => { w with learnt := Function.update w.learnt index (some report) }
  | none => w

/-- Only a waiter that has learnt the report of its worker comes back. -/
def comeBack (w : Watch E) (index : Nat) : Watch E :=
  match w.learnt index with
  | some report => { w with crowd := w.crowd.leave index report }
  | none => w

def next (w : Watch E) : Moment → Watch E
  | .looks index => w.look index
  | .happens (.endWait index) => w.comeBack index
  | .happens happening => { w with crowd := w.crowd.next happening }

def run (w : Watch E) (moments : List Moment) : Watch E := moments.foldl next w

def answer? (w : Watch E) (index : Nat) : Option (Option Report) :=
  w.crowd.waiters[index]?.bind Waiter.answer

/-- Whatever a waiter has learnt is so. -/
structure Informed (w : Watch E) : Prop where
  reliable : w.crowd.Reliable
  learnt : ∀ index report, w.learnt index = some report → w.crowd.sees? index = some report

theorem informed_start (settings : Settings) (tracer : Tracer) (supply : Nat → Uuid) :
    (start settings tracer supply : Watch E).Informed :=
  ⟨Crowd.reliable_start settings tracer supply, fun _ _ learnt => (nomatch learnt)⟩

@[simp] theorem crowd_look (w : Watch E) (index : Nat) : (w.look index).crowd = w.crowd := by
  unfold look
  split <;> rfl

@[simp] theorem learnt_comeBack (w : Watch E) (index : Nat) :
    (w.comeBack index).learnt = w.learnt := by
  unfold comeBack
  split <;> rfl

theorem learnt_look (w : Watch E) (index other : Nat) :
    (w.look index).learnt other =
      if other = index then (w.crowd.sees? index).orElse fun _ => w.learnt index
      else w.learnt other := by
  unfold look
  split
  · next seen => simp [Function.update_apply, seen]
  · next unseen =>
      split
      · next same => simp [same, unseen]
      · rfl

theorem Informed.leave_eq (informed : w.Informed) {report : Option Report}
    (learnt : w.learnt index = some report) :
    w.crowd.leave index report = w.crowd.endWait index := by
  have seen := informed.learnt index report learnt
  obtain ⟨⟨id, generation, answer⟩, held, -⟩ := Option.bind_eq_some_iff.mp seen
  have awaits := informed.reliable.awaits index _ held
  have published := (Crowd.sees?_eq_some_iff awaits).mp seen
  unfold Crowd.leave Crowd.endWait
  rw [held]
  cases answer with
  | none => simp only [Roster.collect?_of_published published]
  | some earlier => rfl

/-- A moment leaves the crowd as it is, or something happens to it as if nobody had to look
before coming back. -/
theorem Informed.crowd_next (informed : w.Informed) (moment : Moment) :
    (w.next moment).crowd = w.crowd ∨
      ∃ happening, moment = .happens happening ∧
        (w.next moment).crowd = w.crowd.next happening := by
  cases moment with
  | looks index => exact .inl (w.crowd_look index)
  | happens happening =>
      cases happening with
      | endWait index =>
          simp only [next, comeBack]
          split
          · next report learnt => exact .inr ⟨_, rfl, informed.leave_eq learnt⟩
          · exact .inl rfl
      | _ => exact .inr ⟨_, rfl, rfl⟩

theorem Informed.of_crowd_next (informed : w.Informed) {p : Crowd E → Prop} (now : p w.crowd)
    (next : ∀ happening, p (w.crowd.next happening)) (moment : Moment) :
    p (w.next moment).crowd := by
  obtain same | ⟨happening, -, same⟩ := informed.crowd_next moment
  · rw [same]
    exact now
  · rw [same]
    exact next happening

theorem learnt_happens (w : Watch E) (happening : Happening) :
    (w.next (.happens happening)).learnt = w.learnt := by
  cases happening with
  | endWait index => exact w.learnt_comeBack index
  | _ => rfl

theorem Informed.learnt_next (informed : w.Informed) {report : Option Report}
    (learnt : w.learnt index = some report) (moment : Moment) :
    (w.next moment).learnt index = some report := by
  cases moment with
  | happens happening =>
      rw [learnt_happens]
      exact learnt
  | looks other =>
      refine (w.learnt_look other index).trans ?_
      split
      · next same =>
          subst same
          rw [informed.learnt index report learnt]
          rfl
      · exact learnt

theorem Informed.next (informed : w.Informed) (moment : Moment) : (w.next moment).Informed := by
  have reliable := informed.reliable
  constructor
  · exact informed.of_crowd_next reliable reliable.next moment
  · intro index report learnt
    suffices seen : w.crowd.sees? index = some report from
      informed.of_crowd_next (p := (·.sees? index = some report)) seen
        (reliable.sees?_next seen) moment
    cases moment with
    | happens happening =>
        rw [learnt_happens] at learnt
        exact informed.learnt index report learnt
    | looks other =>
        rw [show w.next (.looks other) = w.look other from rfl, learnt_look] at learnt
        split at learnt
        · next same =>
            subst same
            cases seen : w.crowd.sees? index with
            | some told => rwa [seen] at learnt
            | none =>
                rw [seen] at learnt
                rw [← seen]
                exact informed.learnt index report learnt
        · exact informed.learnt index report learnt

theorem Informed.run (informed : w.Informed) (moments : List Moment) :
    (w.run moments).Informed := by
  induction moments generalizing w with
  | nil => exact informed
  | cons moment later ih => exact ih (informed.next moment)

theorem Informed.learnt_run (informed : w.Informed) {report : Option Report}
    (learnt : w.learnt index = some report) (moments : List Moment) :
    (w.run moments).learnt index = some report := by
  induction moments generalizing w with
  | nil => exact learnt
  | cons moment later ih => exact ih (informed.next moment) (informed.learnt_next learnt moment)

/-- Every run with looks is a run of the crowd without them. -/
theorem Informed.exists_run (informed : w.Informed) (moments : List Moment) :
    ∃ happenings, (w.run moments).crowd = w.crowd.run happenings := by
  induction moments generalizing w with
  | nil => exact ⟨[], rfl⟩
  | cons moment later ih =>
      obtain ⟨happenings, rest⟩ := ih (informed.next moment)
      obtain same | ⟨happening, -, same⟩ := informed.crowd_next moment
      · exact ⟨happenings, rest.trans (congrArg (Crowd.run · happenings) same)⟩
      · exact ⟨happening :: happenings, rest.trans (congrArg (Crowd.run · happenings) same)⟩

/-- A waiter has noted a worker of the identity. -/
structure Attends (w : Watch E) (index : Nat) (id : EntityId) (generation : Nat) : Prop where
  informed : w.Informed
  awaits : w.crowd.Awaits index id generation
  identity : w.crowd.registry.roster.identity? generation = some id

variable {report : Option Report}

theorem Attends.run (attends : w.Attends index id generation) (moments : List Moment) :
    (w.run moments).Attends index id generation := by
  obtain ⟨happenings, same⟩ := attends.informed.exists_run moments
  refine ⟨attends.informed.run moments, ?_, ?_⟩
  · rw [same]
    exact attends.awaits.run attends.informed.reliable.orderly happenings
  · rw [same]
    exact Crowd.identity_run attends.identity happenings

theorem Attends.retired (attends : w.Attends index id generation)
    (published : w.crowd.registry.roster.status? generation = some (.published report)) :
    w.crowd.registry.Retired id generation report :=
  attends.informed.reliable.accounted.retired attends.identity published

/-- An answer is the report of the worker. -/
theorem Attends.retired_of_answer (attends : w.Attends index id generation)
    (answered : w.answer? index = some report) :
    w.crowd.registry.Retired id generation report := by
  obtain ⟨answer, held, told⟩ := attends.awaits
  rw [answer?, held] at answered
  exact attends.retired (told report answered)

/-- Nobody answers without having come back. -/
theorem Attends.returned (attends : w.Attends index id generation)
    (unanswered : w.answer? index = none) {moment : Moment}
    (answered : (w.next moment).answer? index = some report) :
    moment = .happens (.endWait index) ∧ w.crowd.registry.Retired id generation report := by
  obtain same | ⟨happening, rfl, same⟩ := attends.informed.crowd_next moment
  · rw [answer?, same, ← answer?, unanswered] at answered
    cases answered
  rw [answer?, same] at answered
  have awaits := attends.awaits
  obtain ⟨answer, held, -⟩ := attends.awaits
  by_cases ends : happening = .endWait index
  · subst ends
    rw [awaits.answer] at answered
    obtain ⟨status, here, published⟩ := Option.bind_eq_some_iff.mp answered
    rw [Status.published?_eq_some_iff.mp published] at here
    exact ⟨rfl, attends.retired here⟩
  · rw [Crowd.getElem?_waiters_next held ends, ← held, ← answer?, unanswered] at answered
    cases answered

/-- Once the worker is published its waiter can look, and comes back with its report, no
matter how much later. -/
theorem Attends.comes_back (attends : w.Attends index id generation)
    (published : w.crowd.registry.roster.status? generation = some (.published report))
    (meanwhile : List Moment) :
    (((w.look index).run meanwhile).comeBack index).answer? index = some report := by
  have seen := (Crowd.sees?_eq_some_iff attends.awaits).mpr published
  have looked : (w.look index).learnt index = some report := by
    rw [learnt_look, if_pos rfl, seen]
    rfl
  have waiting : ((w.look index).run meanwhile).Attends index id generation :=
    (attends.run [.looks index]).run meanwhile
  have informed : (w.look index).Informed := attends.informed.next (.looks index)
  have learnt := informed.learnt_run looked meanwhile
  have told := (Crowd.sees?_eq_some_iff waiting.awaits).mp
    (waiting.informed.learnt index report learnt)
  simp only [answer?, comeBack, learnt]
  rw [waiting.informed.leave_eq learnt]
  exact waiting.awaits.answer.trans (congrArg (·.bind Status.published?) told)

/-- All who have noted the worker answer alike. -/
theorem Attends.agree (attends : w.Attends index id generation) {other : Nat} {waiter : Waiter}
    {told : Option Report} (held : w.crowd.waiters[other]? = some waiter)
    (same : waiter.generation = generation) (answered' : waiter.answer = some told)
    (answered : w.answer? index = some report) : told = report := by
  obtain ⟨id', generation', answer⟩ := waiter
  subst same
  obtain ⟨answer', held', truth⟩ := attends.informed.reliable.awaits other _ held
  cases held.symm.trans held'
  have published := (attends.retired_of_answer answered).published
  cases published.symm.trans (truth told answered')
  rfl

/-- A worker that has ended only needs its supervision to be published. -/
theorem Attends.supervised (attends : w.Attends index id generation) {worker : Worker E}
    (held : w.crowd.registry.workers[generation]? = some worker) (ends : worker.Ends report) :
    (w.run [.happens (.record generation), .happens (.publish generation)]).crowd.registry.Retired
      id generation report :=
  (attends.run _).retired (attends.informed.reliable.accounted.supervised held ends)

theorem Attends.generation?_comeBack (attends : w.Attends index id generation) {other : EntityId}
    {kept : Nat} (different : kept ≠ generation)
    (found : w.crowd.registry.roster.generation? other = some kept) :
    (w.comeBack index).crowd.registry.roster.generation? other = some kept := by
  obtain ⟨answer, held, -⟩ := attends.awaits
  unfold comeBack Crowd.leave
  split
  · rw [held]
    cases answer with
    | none => exact Roster.generation?_release different found
    | some earlier => exact found
  · exact found

/-- Who waits for an identity that has an entry answers for the worker that holds it, at
whatever moments it looks and comes back and whatever happens in between. It answers only by
coming back once that worker is published, with what became of that worker; and it can do so
from then on, for which a worker that has ended needs nothing but its supervision. All who
have noted the worker answer alike, and the call drops the entry of no other worker. -/
theorem run_answers (settings : Settings) (tracer : Tracer) (supply : Nat → Uuid)
    (before : List Moment) {id : EntityId} {generation : Nat}
    (found : ((start settings tracer supply : Watch E).run
      before).crowd.registry.roster.generation? id = some generation) (later : List Moment) :
    let noted : Watch E := (start settings tracer supply).run before
    let index := noted.crowd.waiters.length
    let w := (noted.next (.happens (.beginWait id))).run later
    let r := w.crowd.registry
    (∀ report, w.answer? index = some report → r.Retired id generation report) ∧
    (∀ moment report, w.answer? index = none → (w.next moment).answer? index = some report →
      moment = .happens (.endWait index) ∧ r.Retired id generation report) ∧
    (∀ report, r.Retired id generation report → ∀ meanwhile,
      (((w.next (.looks index)).run meanwhile).next (.happens (.endWait index))).answer? index =
        some report) ∧
    (∀ worker report, r.workers[generation]? = some worker → worker.Ends report →
      (w.run [.happens (.record generation),
        .happens (.publish generation)]).crowd.registry.Retired id generation report) ∧
    (∀ (other : Nat) (waiter : Waiter) told report,
      w.crowd.waiters[other]? = some waiter → waiter.generation = generation →
      waiter.answer = some told → w.answer? index = some report → told = report) ∧
    ∀ moment ∈ [.happens (.beginWait id), .looks index, .happens (.endWait index)],
      ∀ other kept, kept ≠ generation → r.roster.generation? other = some kept →
        (w.next moment).crowd.registry.roster.generation? other = some kept := by
  intro noted index w r
  have informed : noted.Informed := (informed_start settings tracer supply).run before
  have latest := informed.reliable.orderly.sound.latest id generation found
  have attends : (noted.next (.happens (.beginWait id))).Attends index id generation := by
    constructor
    · exact informed.next _
    · exact Crowd.awaits_beginWait found
    · exact (noted.crowd.becomes_next (.beginWait id)).identity latest.identity
  replace attends : w.Attends index id generation := attends.run later
  refine ⟨?_, ?_, ?_, ?_, ?_, ?_⟩
  · intro report answered
    exact attends.retired_of_answer answered
  · intro moment report unanswered answered
    exact attends.returned unanswered answered
  · intro report retired meanwhile
    exact attends.comes_back retired.published meanwhile
  · intro worker report held ends
    exact attends.supervised held ends
  · intro other waiter told report held same answered' answered
    exact attends.agree held same answered' answered
  · intro moment call other kept different held
    simp only [List.mem_cons, List.not_mem_nil, or_false] at call
    obtain rfl | rfl | rfl := call
    · simp only [Watch.next, Crowd.next, Crowd.beginWait]
      split <;> exact held
    · exact (congrArg (·.registry.roster.generation? other) (w.crowd_look index)).trans held
    · exact attends.generation?_comeBack different held

end Watch

namespace Samples.Counter

def attended : Watch entity :=
  (Watch.start .default .silent Uuid.ofNat).run [.happens (.openChannel ⟨"c"⟩)]

def stopping : List Moment :=
  [.happens (.dropHandle 0), .happens (.work 0), .happens (.work 0), .happens (.record 0),
    .happens (.publish 0)]

def succession : List Moment := [.happens .liveEntities, .happens (.openChannel ⟨"c"⟩)]

/-- Before a waiter that has looked comes back, the counter is opened again. The waiter
still gets the report of the first worker, and the second one keeps its entry. -/
theorem run_answers_reopened :
    let index := attended.crowd.waiters.length
    let stopped := (attended.next (.happens (.beginWait ⟨"c"⟩))).run stopping
    let reopened := (stopped.next (.looks index)).run succession
    let ended := reopened.next (.happens (.endWait index))
    attended.crowd.registry.roster.generation? ⟨"c"⟩ = some 0 ∧
      reopened.crowd.registry.roster.generation? ⟨"c"⟩ = some 1 ∧
      reopened.answer? index = none ∧
      ended.answer? index = some (some ⟨.inboundClosed, some ⟨"c"⟩, false⟩) ∧
      ended.crowd.registry.roster.generation? ⟨"c"⟩ = some 1 := by
  intro index stopped reopened ended
  have found : attended.crowd.registry.roster.generation? ⟨"c"⟩ = some 0 := by decide +kernel
  have second : reopened.crowd.registry.roster.generation? ⟨"c"⟩ = some 1 := by decide +kernel
  have unanswered : reopened.answer? index = none := by decide +kernel
  have informed : stopped.Informed :=
    (((Watch.informed_start _ _ _).run _).next _).run stopping
  have retired : stopped.crowd.registry.Retired ⟨"c"⟩ 0
      (some ⟨.inboundClosed, some ⟨"c"⟩, false⟩) :=
    informed.reliable.accounted.retired (by decide +kernel) (by decide +kernel)
  obtain ⟨-, -, returns, -⟩ := Watch.run_answers _ _ _ _ found stopping
  obtain ⟨-, -, -, -, -, keeps⟩ :=
    Watch.run_answers _ _ _ _ found (stopping ++ .looks index :: succession)
  refine ⟨found, second, unanswered, returns _ retired succession, ?_⟩
  have split : (attended.next (.happens (.beginWait ⟨"c"⟩))).run
      (stopping ++ .looks index :: succession) = reopened := List.foldl_append
  unfold attended at split
  rw [split] at keeps
  exact keeps _ (.tail _ (.tail _ (.head _))) ⟨"c"⟩ 1 (by decide) second

end Samples.Counter

end EntityEngine
