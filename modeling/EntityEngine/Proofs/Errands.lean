import EntityEngine.Proofs.Dossiers

/-!
# Errands

Whatever becomes of an identity follows from the errands that concern it: from the calls
to open it, from what the hosts ask of its workers, from the steps of these workers and
the memory they find, from the records and the publications of their ends, and from the
time that passes. The registry keeps the affairs of the identity, which are its dossier
and its latest worker, and every errand makes the same of them whatever else goes on.
-/

namespace EntityEngine

inductive Request where
  | handle
  | send (message : Inbound)
  | receive
  | cloneHandle
  | dropHandle
  | dropReplies

def Happening.request? : Happening → Option (Nat × Request)
  | .send generation message => some (generation, .send message)
  | .receive generation => some (generation, .receive)
  | .cloneHandle generation => some (generation, .cloneHandle)
  | .dropHandle generation => some (generation, .dropHandle)
  | .dropReplies generation => some (generation, .dropReplies)
  | _ => none

/-- What concerns an identity. -/
inductive Errand (E : Entity) where
  | opens
  | asks (request : Request)
  /-- A worker of the identity may make a step, and finds this memory. -/
  | works (shared : Shared E.Memory)
  | records
  | publishes
  | passes (span : Nat)

/-- What the further course of an identity depends on. -/
structure Affairs (E : Entity) where
  dossier : Dossier
  /-- The latest worker. -/
  worker : Option (Worker E)

def Worker.asked {E : Entity} (w : Worker E) : Request → Worker E
  | .handle =>
    if w.inbound.receiving && w.inbound.senders ≠ 0 then
      { w with inbound := w.inbound.addSender }
    else w
  | .send message =>
    if w.inbound.senders ≠ 0 then
      match w.send message with
      | .ok w => w
      | .error _ => w
    else w
  | .receive =>
    match w.receive with
    | .message _ w => w
    | _ => w
  | .cloneHandle =>
    if w.inbound.senders ≠ 0 then { w with inbound := w.inbound.addSender } else w
  | .dropHandle => { w with inbound := w.inbound.dropSender }
  | .dropReplies => w.closeOutbound

/-- A worker for an identity of which this is noted. -/
def Dossier.recruit (E : Entity) (settings : Settings) (tracer : Tracer) (id : EntityId)
    (d : Dossier) : Attempt (Worker E) :=
  Worker.create
    { policy := settings.policyFor E.name
      tracer
      expectedEntity := some id
      ignoreInitSnapshot := d.tombstone.isSome }
    (max settings.channelCapacity.toNat 1) settings.passivation

def Dossier.grant (E : Entity) (settings : Settings) (tracer : Tracer) (id : EntityId)
    (d : Dossier) : Except Registry.Opened (Option (Worker E)) :=
  if d.isFree then
    match d.recruit E settings tracer id with
    | .ok worker => .ok (some worker)
    | .error crash => .error (.panicked crash)
  else .error (.refused (.alreadyOpen id))

namespace Affairs

variable {E : Entity}

def blank : Affairs E := ⟨.blank, none⟩

def deed? (a : Affairs E) : Errand E → Option Deed
  | .opens => some .opens
  | .asks _ => none
  | .works shared => do
    let w ← a.worker
    let stride ← w.step? a.dossier.now shared
    if stride.worker.hasEnded then some (.ends stride.worker.report?) else none
  | .records => some .records
  | .publishes => some .publishes
  | .passes span => some (.passes span)

variable (settings : Settings) (tracer : Tracer) (id : EntityId)

def after (a : Affairs E) (errand : Errand E) : Affairs E where
  dossier := (a.deed? errand).elim a.dossier (a.dossier.after settings id)
  worker :=
    match errand with
    | .opens =>
      if a.dossier.isFree then (a.dossier.recruit E settings tracer id).toOption else a.worker
    | .asks request => a.worker.map (·.asked request)
    | .works shared => a.worker.map fun w => (w.step? a.dossier.now shared).elim w Stride.worker
    | _ => a.worker

def deeds : Affairs E → List (Errand E) → List Deed
  | _, [] => []
  | a, errand :: later => (a.deed? errand).toList ++ deeds (a.after settings tracer id errand) later

end Affairs

namespace Crowd

variable {E : Entity}

/-- An errand with a worker concerns an identity as long as the worker is at work for it. -/
def concerns? (c : Crowd E) (id : EntityId) (generation : Nat) (errand : Errand E) :
    Option (Errand E) :=
  if c.registry.roster.posts[generation]? = some ⟨id, .working⟩ then some errand else none

/-- How an identity is concerned by what happens. -/
def errand? (c : Crowd E) (id : EntityId) : Happening → Option (Errand E)
  | .openChannel other => if other = id then some .opens else none
  | .handle other => if other = id then some (.asks .handle) else none
  | .send generation message => c.concerns? id generation (.asks (.send message))
  | .receive generation => c.concerns? id generation (.asks .receive)
  | .cloneHandle generation => c.concerns? id generation (.asks .cloneHandle)
  | .dropHandle generation => c.concerns? id generation (.asks .dropHandle)
  | .dropReplies generation => c.concerns? id generation (.asks .dropReplies)
  | .work generation => c.concerns? id generation (.works c.registry.shared)
  | .record generation =>
    match c.registry.roster.posts[generation]? with
    | some ⟨other, .finished _⟩ => if other = id then some .records else none
    | _ => none
  | .publish generation =>
    match c.registry.roster.posts[generation]? with
    | some ⟨other, .recorded _⟩ => if other = id then some .publishes else none
    | _ => none
  | .pass span => some (.passes span)
  | _ => none

def errands (id : EntityId) : Crowd E → List Happening → List (Errand E)
  | _, [] => []
  | c, happening :: later => (c.errand? id happening).toList ++ errands id (c.next happening) later

end Crowd

theorem modify_congr_of_found {α : Type} {items : List α} {index : Nat} {f g : α → α} {item : α}
    (found : items[index]? = some item) (same : f item = g item) :
    items.modify index f = items.modify index g := by
  rw [List.modify_eq_set_getElem?, List.modify_eq_set_getElem?, found]
  exact congrArg (items.set index) same

theorem modify_of_found {α : Type} {items : List α} {index : Nat} {f : α → α} {item : α}
    (found : items[index]? = some item) (same : f item = item) : items.modify index f = items :=
  (modify_congr_of_found found same).trans (List.modify_id index items)

namespace Registry

variable {E : Entity} {r : Registry E} {id : EntityId} {settings : Settings} {tracer : Tracer}
  {d : Dossier}

/-- What a caller gets who opens an identity, but for the number of the worker. -/
def grant (r : Registry E) (id : EntityId) : Except Opened (Option (Worker E)) :=
  let account := r.openChannel id
  match account.result with
  | .channel generation => .ok account.registry.workers[generation]?
  | refused => .error refused

theorem Shows.recruit_eq (shows : r.Shows settings id d) (tracer : Tracer)
    (traced : r.tracer = tracer) :
    Worker.create (r.channelOptions id ((r.roster.reap r.now).1.isTombstoned id)) r.capacity
      r.settings.passivation = d.recruit E settings tracer id := by
  have told : (r.roster.reap r.now).1.isTombstoned id = d.tombstone.isSome := by
    rw [← shows.tombstone]
    exact r.isTombstoned_eq id
  rw [told, capacity, channelOptions, shows.kept, traced, Dossier.recruit]

theorem Shows.grant_eq (shows : r.Shows settings id d) (orderly : r.Orderly)
    (traced : r.tracer = tracer) : r.grant id = d.grant E settings tracer id := by
  have ways := r.opens id
  have taken := shows.isTaken_reap orderly
  have recruit := shows.recruit_eq tracer traced
  unfold grant Dossier.grant
  generalize r.openChannel id = account at ways ⊢
  cases ways with
  | taken reserved =>
      rw [reserved, eq_comm, Bool.not_eq_true'] at taken
      rw [if_neg (by simp [taken])]
  | oversized untaken crashed =>
      rw [untaken, eq_comm, Bool.not_eq_false'] at taken
      rw [if_pos taken, ← recruit, Worker.create, crashed]
  | @opened _ worker untaken createsWorker =>
      rw [untaken, eq_comm, Bool.not_eq_false'] at taken
      rw [if_pos taken, ← recruit, createsWorker]
      have last : (r.workers ++ [worker])[r.roster.posts.length]? = some worker := by
        rw [← orderly.paired, List.getElem?_concat_length]
      exact congrArg Except.ok last

/-- These are the affairs of an identity in the registry. -/
structure HasAffairs (settings : Settings) (tracer : Tracer) (r : Registry E) (id : EntityId)
    (a : Affairs E) : Prop where
  shows : r.Shows settings id a.dossier
  traced : r.tracer = tracer
  worker : ∀ generation : Nat, r.roster.posts[generation]? = some ⟨id, .working⟩ →
    r.workers[generation]? = a.worker

theorem Becomes.traced {r' : Registry E} (h : r.Becomes r') : r'.tracer = r.tracer := by
  cases h <;> rfl

end Registry

namespace Crowd

variable {E : Entity} {c : Crowd E} {id : EntityId} {generation : Nat} {settings : Settings}
  {tracer : Tracer} {a : Affairs E}

theorem deed?_eq (orderly : c.registry.Orderly)
    (hasAffairs : c.registry.HasAffairs settings tracer id a)
    (happening : Happening) : c.deed? id happening = (c.errand? id happening).bind a.deed? := by
  cases happening with
  | openChannel other =>
      simp only [deed?, errand?]
      split <;> rfl
  | handle other =>
      simp only [deed?, errand?]
      split <;> rfl
  | work generation =>
      simp only [deed?, errand?, concerns?]
      split
      next post =>
        have owner : c.registry.roster.identity? generation = some id :=
          congrArg (Option.map _) post
        rw [hasAffairs.worker generation post, hasAffairs.shows.now, owner]
        simp [Affairs.deed?]
      next idle =>
        refine Option.bind_eq_none_iff.mpr fun w found =>
          Option.bind_eq_none_iff.mpr fun stride step => ?_
        obtain ⟨named, post⟩ := orderly.exists_post_of_step? found step
        have owner : c.registry.roster.identity? generation = some named :=
          congrArg (Option.map _) post
        rw [if_neg]
        rintro ⟨-, same⟩
        cases owner.symm.trans same
        exact idle post
  | record generation =>
      simp only [deed?, errand?]
      obtain _ | ⟨other, _ | _ | _ | _⟩ := c.registry.roster.posts[generation]? <;>
        dsimp only <;> first | rfl | split <;> rfl
  | publish generation =>
      simp only [deed?, errand?]
      obtain _ | ⟨other, _ | _ | _ | _⟩ := c.registry.roster.posts[generation]? <;>
        dsimp only <;> first | rfl | split <;> rfl
  | send | receive | cloneHandle | dropHandle | dropReplies =>
      simp only [deed?, errand?, concerns?]
      split <;> rfl
  | _ => rfl

theorem working_before (orderly : c.registry.Orderly) {happening : Happening}
    (unopened : ∀ other, happening ≠ .openChannel other)
    (working : (c.next happening).registry.roster.posts[generation]? = some ⟨id, .working⟩) :
    c.registry.roster.posts[generation]? = some ⟨id, .working⟩ := by
  have appliesDeed := appliesDeed_next orderly id unopened
  have identity := (appliesDeed.identity generation).symm.trans (congrArg (Option.map _) working)
  obtain ⟨⟨_, status⟩, found, rfl⟩ := Option.map_eq_some_iff.mp identity
  have status' := appliesDeed.status generation status identity (congrArg (Option.map _) found)
  have same := Option.some.inj (status'.symm.trans (congrArg (Option.map _) working))
  have kept : status = .working := by
    generalize c.deed? _ happening = deed at same
    cases deed with
    | none => exact same
    | some deed => exact Status.eq_working_of_after same
  rw [found, kept]

theorem isHeld_of_found {w : Worker E} (found : c.registry.workers[generation]? = some w) :
    c.registry.isHeld generation = decide (w.inbound.senders ≠ 0) := by
  rw [Registry.isHeld, found]
  rfl

theorem workers_send (message : Inbound) :
    (c.next (.send generation message)).registry.workers =
      c.registry.workers.modify generation fun w => w.asked (.send message) := by
  cases found : c.registry.workers[generation]? with
  | none =>
      rw [List.modify_eq_self (List.getElem?_eq_none_iff.mp found)]
      simp [next, Registry.isHeld, found]
  | some w =>
      have held := isHeld_of_found found
      by_cases senders : w.inbound.senders = 0
      · have same : w.asked (.send message) = w := if_neg (not_not.mpr senders)
        rw [modify_of_found found same]
        simp [next, held, senders]
      · cases made : w.send message with
        | error refusal =>
            have same : w.asked (.send message) = w := by
              simp only [Worker.asked, made, ne_eq, senders, not_false_eq_true, if_true]
            rw [modify_of_found found same]
            simp [next, held, senders, Registry.send, found, made, Except.map]
        | ok after =>
            have same : after = w.asked (.send message) := by
              simp only [Worker.asked, made, ne_eq, senders, not_false_eq_true, if_true]
            simp only [next, held, senders, Registry.send, found, made, ne_eq,
              not_false_eq_true, decide_true, if_true]
            exact modify_congr_of_found found same

theorem workers_receive :
    (c.next (.receive generation)).registry.workers =
      c.registry.workers.modify generation fun w => w.asked .receive := by
  simp only [next, Registry.receive]
  cases found : c.registry.workers[generation]? with
  | none => exact (List.modify_eq_self (List.getElem?_eq_none_iff.mp found)).symm
  | some w =>
      dsimp only
      cases made : w.receive with
      | message message after =>
          exact modify_congr_of_found found (by rw [Worker.asked, made])
      | pending => exact (modify_of_found found (by rw [Worker.asked, made])).symm
      | closed => exact (modify_of_found found (by rw [Worker.asked, made])).symm

theorem workers_cloneHandle :
    (c.next (.cloneHandle generation)).registry.workers =
      c.registry.workers.modify generation fun w => w.asked .cloneHandle := by
  cases found : c.registry.workers[generation]? with
  | none =>
      rw [List.modify_eq_self (List.getElem?_eq_none_iff.mp found)]
      simp [next, Registry.isHeld, found]
  | some w =>
      have held := isHeld_of_found found
      by_cases senders : w.inbound.senders = 0
      · have same : w.asked .cloneHandle = w := if_neg (not_not.mpr senders)
        rw [modify_of_found found same]
        simp [next, held, senders]
      · simp only [next, held, senders, ne_eq, not_false_eq_true, decide_true, if_true]
        exact modify_congr_of_found found (if_pos senders).symm

/-- The requests of hosts change the worker that they are for, and nothing else. -/
theorem workers_request {happening : Happening} {request : Request}
    (asks : happening.request? = some (generation, request)) :
    (c.next happening).registry.workers =
      c.registry.workers.modify generation fun w => w.asked request := by
  cases happening with
  | send g message =>
      cases asks
      exact workers_send message
  | receive g =>
      cases asks
      exact workers_receive
  | cloneHandle g =>
      cases asks
      exact workers_cloneHandle
  | dropHandle g =>
      cases asks
      rfl
  | dropReplies g =>
      cases asks
      rfl
  | _ => cases asks

theorem workers_handle (r : Registry E) (id : EntityId) :
    (r.handle id).registry.workers =
      ((r.roster.reap r.now).1.generation? id).elim r.workers fun generation =>
        r.workers.modify generation fun w => w.asked .handle := by
  have reaped : r.reap.1.roster = (r.roster.reap r.now).1 := rfl
  have kept : r.reap.1.workers = r.workers := rfl
  unfold Registry.handle
  simp only [reaped, kept]
  cases (r.roster.reap r.now).1.generation? id with
  | none => rfl
  | some generation =>
      simp only [Option.bind_eq_bind, Option.bind_some, Option.elim_some]
      cases found : r.workers[generation]? with
      | none => exact (List.modify_eq_self (List.getElem?_eq_none_iff.mp found)).symm
      | some w =>
          simp only [Option.bind_some]
          by_cases takes : (w.inbound.receiving && decide (w.inbound.senders ≠ 0)) = true
          · rw [if_pos takes]
            exact modify_congr_of_found found (if_pos takes).symm
          · have same : w.asked .handle = w := if_neg takes
            rw [if_neg takes, modify_of_found found same]
            exact kept

theorem workers_work (r : Registry E) (generation : Nat) :
    (r.work generation).workers =
      r.workers.modify generation fun w => (w.step? r.now r.shared).elim w Stride.worker := by
  unfold Registry.work
  cases found : r.workers[generation]? with
  | none => exact (List.modify_eq_self (List.getElem?_eq_none_iff.mp found)).symm
  | some w =>
      dsimp only
      cases step : w.step? r.now r.shared with
      | none => exact (modify_of_found found (by rw [step]; rfl)).symm
      | some stride =>
          rw [List.modify_eq_set_getElem?, found]
          simp [step, Registry.stepped]

/-- An identity has one worker at work at most. -/
theorem working_unique (orderly : c.registry.Orderly) {other : Nat}
    (working : c.registry.roster.posts[generation]? = some ⟨id, .working⟩)
    (working' : c.registry.roster.posts[other]? = some ⟨id, .working⟩) : generation = other :=
  orderly.sound.eq_of_unpublished (congrArg (Option.map _) working)
    (by rw [Roster.isPublished, working]) (congrArg (Option.map _) working')
    (by rw [Roster.isPublished, working'])

theorem worker_of_same (orderly : c.registry.Orderly)
    (hasAffairs : c.registry.HasAffairs settings tracer id a) {happening : Happening}
    (unopened : ∀ other, happening ≠ .openChannel other)
    (same : (c.next happening).registry.workers = c.registry.workers)
    (kept : ((c.errand? id happening).elim a (a.after settings tracer id)).worker = a.worker)
    (working : (c.next happening).registry.roster.posts[generation]? = some ⟨id, .working⟩) :
    (c.next happening).registry.workers[generation]? =
      ((c.errand? id happening).elim a (a.after settings tracer id)).worker := by
  rw [kept, same]
  exact hasAffairs.worker generation (working_before orderly unopened working)

/-- What one worker makes of something that concerns it. -/
theorem worker_of_concerns (orderly : c.registry.Orderly)
    (hasAffairs : c.registry.HasAffairs settings tracer id a) {happening : Happening} {other : Nat}
    {errand : Errand E} {f : Worker E → Worker E}
    (unopened : ∀ other, happening ≠ .openChannel other)
    (changed : (c.next happening).registry.workers = c.registry.workers.modify other f)
    (concerns : c.errand? id happening = c.concerns? id other errand)
    (done : (a.after settings tracer id errand).worker = a.worker.map f)
    (working : (c.next happening).registry.roster.posts[generation]? = some ⟨id, .working⟩) :
    (c.next happening).registry.workers[generation]? =
      ((c.errand? id happening).elim a (a.after settings tracer id)).worker := by
  have before := working_before orderly unopened working
  rw [changed, concerns, concerns?]
  by_cases here : other = generation
  · subst here
    rw [List.getElem?_modify_eq, if_pos before, Option.elim_some, done,
      hasAffairs.worker other before]
    rfl
  · have elsewhere : c.registry.roster.posts[other]? ≠ some ⟨id, .working⟩ := fun working' =>
      here (working_unique orderly working' before)
    rw [List.getElem?_modify_ne _ _ here, if_neg elsewhere]
    exact hasAffairs.worker generation before

/-- A new handle is given to the worker at work, if there is one. -/
theorem worker_handle (orderly : c.registry.Orderly)
    (hasAffairs : c.registry.HasAffairs settings tracer id a) {other : EntityId}
    (working : (c.next (.handle other)).registry.roster.posts[generation]? =
      some ⟨id, .working⟩) :
    (c.next (.handle other)).registry.workers[generation]? =
      ((c.errand? id (.handle other)).elim a (a.after settings tracer id)).worker := by
  have before := working_before orderly (by simp) working
  have here := hasAffairs.worker generation before
  have identity : c.registry.roster.identity? generation = some id :=
    congrArg (Option.map _) before
  have unpublished : c.registry.roster.isPublished generation = false := by
    rw [Roster.isPublished, before]
  change (c.registry.handle other).registry.workers[generation]? = _
  rw [workers_handle, errand?]
  split
  next same =>
    subst same
    have held := orderly.sound.reserved other generation identity unpublished
    rw [Roster.generation?_reap_iff unpublished |>.mpr held, Option.elim_some, Option.elim_some,
      List.getElem?_modify_eq, here]
    rfl
  next distinct =>
    cases found : (c.registry.roster.reap c.registry.now).1.generation? other with
    | none => exact here
    | some holder =>
        have elsewhere : holder ≠ generation := by
          rintro rfl
          have latest := orderly.reap.sound.latest other holder found
          exact distinct (Option.some.inj (latest.identity.symm.trans identity))
        rw [Option.elim_some, List.getElem?_modify_ne _ _ elsewhere]
        exact here

theorem working_addWorker {r : Registry E} (orderly : r.Orderly) {other : EntityId}
    {worker : Worker E}
    (working : ((r.cleared other).addWorker other worker).roster.posts[generation]? =
      some ⟨id, .working⟩) :
    (other = id ∧ (r.workers ++ [worker])[generation]? = some worker) ∨
      (r.roster.posts[generation]? = some ⟨id, .working⟩ ∧
        (r.workers ++ [worker])[generation]? = r.workers[generation]?) := by
  have posts := ((r.cleared other).roster.posts_enter other generation).symm.trans working
  split at posts
  next last =>
    refine .inl ⟨congrArg Post.entityId (Option.some.inj posts), ?_⟩
    rw [last]
    exact (congrArg _ orderly.paired.symm).trans List.getElem?_concat_length
  next earlier =>
    have bound : generation < r.roster.posts.length := (List.getElem?_eq_some_iff.mp posts).1
    exact .inr ⟨posts, List.getElem?_append_left (orderly.paired ▸ bound)⟩

theorem worker_openChannel_other (orderly : c.registry.Orderly)
    (hasAffairs : c.registry.HasAffairs settings tracer id a) {other : EntityId}
    (distinct : other ≠ id)
    (working : (c.next (.openChannel other)).registry.roster.posts[generation]? =
      some ⟨id, .working⟩) :
    (c.next (.openChannel other)).registry.workers[generation]? = a.worker := by
  have ways := c.registry.opens other
  change (c.registry.openChannel other).registry.roster.posts[generation]? = _ at working
  change (c.registry.openChannel other).registry.workers[generation]? = _
  generalize c.registry.openChannel other = account at ways working ⊢
  cases ways with
  | taken => exact hasAffairs.worker generation working
  | oversized => exact hasAffairs.worker generation working
  | opened untaken createsWorker =>
      obtain ⟨same, -⟩ | ⟨before, kept⟩ := working_addWorker orderly working
      · exact (distinct same).elim
      · exact kept.trans (hasAffairs.worker generation before)

theorem worker_openChannel (orderly : c.registry.Orderly)
    (hasAffairs : c.registry.HasAffairs settings tracer id a)
    (working : (c.next (.openChannel id)).registry.roster.posts[generation]? =
      some ⟨id, .working⟩) :
    (c.next (.openChannel id)).registry.workers[generation]? =
      (a.after settings tracer id .opens).worker := by
  have ways := c.registry.opens id
  have taken := hasAffairs.shows.isTaken_reap orderly
  have recruit := hasAffairs.shows.recruit_eq tracer hasAffairs.traced
  have idle (untaken : (c.registry.roster.reap c.registry.now).1.isTaken id = false)
      (before : c.registry.roster.posts[generation]? = some ⟨id, .working⟩) : False :=
    orderly.sound.not_free (congrArg (Option.map _) before) (by rw [Roster.isPublished, before])
      (orderly.untaken_iff.mp untaken)
  change (c.registry.openChannel id).registry.roster.posts[generation]? = _ at working
  change (c.registry.openChannel id).registry.workers[generation]? = _
  generalize c.registry.openChannel id = account at ways working ⊢
  cases ways with
  | taken reserved =>
      rw [reserved, eq_comm, Bool.not_eq_true'] at taken
      simp only [Affairs.after, taken, Bool.false_eq_true, if_false]
      exact hasAffairs.worker generation working
  | oversized untaken crashed =>
      exact (idle untaken working).elim
  | opened untaken createsWorker =>
      obtain ⟨-, new⟩ | ⟨before, -⟩ := working_addWorker orderly working
      · rw [untaken, eq_comm, Bool.not_eq_false'] at taken
        rw [Registry.CreatesWorker, recruit] at createsWorker
        simp only [Affairs.after, taken, if_true, createsWorker]
        exact new
      · exact (idle untaken before).elim

theorem worker_next (orderly : c.registry.Orderly)
    (hasAffairs : c.registry.HasAffairs settings tracer id a) (happening : Happening)
    (working : (c.next happening).registry.roster.posts[generation]? = some ⟨id, .working⟩) :
    (c.next happening).registry.workers[generation]? =
      ((c.errand? id happening).elim a (a.after settings tracer id)).worker := by
  cases happening with
  | openChannel other =>
      by_cases same : other = id
      · subst same
        rw [errand?, if_pos rfl]
        exact worker_openChannel orderly hasAffairs working
      · rw [errand?, if_neg same]
        exact worker_openChannel_other orderly hasAffairs same working
  | handle other => exact worker_handle orderly hasAffairs working
  | send g message =>
      exact worker_of_concerns orderly hasAffairs (by simp) (workers_request rfl) rfl rfl working
  | receive g =>
      exact worker_of_concerns orderly hasAffairs (by simp) (workers_request rfl) rfl rfl working
  | cloneHandle g =>
      exact worker_of_concerns orderly hasAffairs (by simp) (workers_request rfl) rfl rfl working
  | dropHandle g =>
      exact worker_of_concerns orderly hasAffairs (by simp) (workers_request rfl) rfl rfl working
  | dropReplies g =>
      exact worker_of_concerns orderly hasAffairs (by simp) (workers_request rfl) rfl rfl working
  | work g =>
      refine worker_of_concerns orderly hasAffairs (by simp)
        (workers_work c.registry g) rfl ?_ working
      rw [hasAffairs.shows.now]
      rfl
  | record g =>
      refine worker_of_same orderly hasAffairs (by simp) rfl ?_ working
      simp only [errand?]
      obtain _ | ⟨other, _ | _ | _ | _⟩ := c.registry.roster.posts[g]? <;>
        dsimp only <;> first | rfl | split <;> rfl
  | publish g =>
      refine worker_of_same orderly hasAffairs (by simp) rfl ?_ working
      simp only [errand?]
      obtain _ | ⟨other, _ | _ | _ | _⟩ := c.registry.roster.posts[g]? <;>
        dsimp only <;> first | rfl | split <;> rfl
  | pass span => exact worker_of_same orderly hasAffairs (by simp) rfl rfl working
  | liveEntities | isTombstoned | beginWait | endWait =>
      refine worker_of_same orderly hasAffairs (by simp) ?_ rfl working
      exact (alike_next_of_looks rfl).workers.symm

theorem hasAffairs_next (orderly : c.registry.Orderly) (attributed : c.registry.Attributed)
    (hasAffairs : c.registry.HasAffairs settings tracer id a) (happening : Happening) :
    (c.next happening).registry.HasAffairs settings tracer id
      ((c.errand? id happening).elim a (a.after settings tracer id)) where
  shows := by
    have shows := shows_next orderly attributed hasAffairs.shows happening
    rw [deed?_eq orderly hasAffairs] at shows
    generalize c.errand? id happening = errand at shows ⊢
    cases errand <;> exact shows
  traced := (c.becomes_next happening).traced.trans hasAffairs.traced
  worker := fun _ working => worker_next orderly hasAffairs happening working

/-- The affairs of an identity follow from its errands. -/
theorem hasAffairs_run (orderly : c.registry.Orderly) (attributed : c.registry.Attributed)
    (hasAffairs : c.registry.HasAffairs settings tracer id a) (happenings : List Happening) :
    (c.run happenings).registry.HasAffairs settings tracer id
      ((c.errands id happenings).foldl (Affairs.after settings tracer id) a) := by
  induction happenings generalizing c a with
  | nil => exact hasAffairs
  | cons happening later ih =>
      have step := c.becomes_next happening
      have next := ih (step.orderly orderly) (step.attributed orderly attributed)
        (hasAffairs_next orderly attributed hasAffairs happening)
      rw [errands, List.foldl_append]
      generalize c.errand? id happening = errand at next ⊢
      cases errand <;> exact next

theorem deeds_eq (orderly : c.registry.Orderly) (attributed : c.registry.Attributed)
    (hasAffairs : c.registry.HasAffairs settings tracer id a) (happenings : List Happening) :
    c.deeds id happenings = a.deeds settings tracer id (c.errands id happenings) := by
  induction happenings generalizing c a with
  | nil => rfl
  | cons happening later ih =>
      have step := c.becomes_next happening
      have next := ih (step.orderly orderly) (step.attributed orderly attributed)
        (hasAffairs_next orderly attributed hasAffairs happening)
      rw [deeds, errands, deed?_eq orderly hasAffairs, next]
      cases c.errand? id happening <;> rfl

end Crowd

end EntityEngine
