import EntityEngine.Registry
import EntityEngine.Proofs.Reservation
import EntityEngine.Proofs.Traffic

/-!
# A registry among its callers

Callers open channels, ask for handles, look at the registry and wait for workers to
stop; hosts send and receive and drop what they hold; workers make their steps, their
ends are recorded and published, and time passes. All of this happens in any order. An
operation of the registry has it for itself while it runs, so it is one happening, but
for waiting, which looks up a worker first and drops its entry much later.

Whatever happens, an identity has one worker at most, and is reserved until that worker
is published as stopped.
-/

namespace EntityEngine

namespace Worker

variable {E : Entity} {w w' : Worker E}

theorem hasEnded_congr (stage : w'.stage = w.stage) : w'.hasEnded = w.hasEnded := by
  unfold hasEnded
  rw [stage]

theorem capacityCrash?_eq_none_iff {capacity : Nat} :
    capacityCrash? capacity = none ↔ 0 < capacity ∧ capacity ≤ Queue.maxCapacity := by
  unfold capacityCrash?
  split
  · next none => simp [none]
  · next some =>
      split
      · next oversized => simp [oversized]
      · next fits => simp only [true_iff]; omega

theorem hasEnded_create {options : Options} {capacity : Nat} {passivation : Option Duration}
    (created : create options capacity passivation = .ok w) : w.hasEnded = false := by
  unfold create at created
  split at created
  · cases created
  · cases created
    rfl

/-- What a host makes of a worker. -/
inductive Hosts (w : Worker E) : Worker E → Prop
  | sent {message : Inbound} {w' : Worker E} (sent : w.send message = .ok w') : Hosts w w'
  | received {message : Outbound} {w' : Worker E} (received : w.receive = .message message w') :
      Hosts w w'
  | cloned : Hosts w { w with inbound := w.inbound.addSender }
  | dropped : Hosts w { w with inbound := w.inbound.dropSender }
  | deafened : Hosts w w.closeOutbound

/-- Hosts touch nothing but the queues. -/
theorem Hosts.exists_queues (h : w.Hosts w') :
    ∃ inbound outbound, w' = { w with inbound, outbound } := by
  cases h with
  | sent sent =>
      unfold send at sent
      cases pushed : w.inbound.push _ with
      | error refusal =>
          rw [pushed] at sent
          cases sent
      | ok inbound =>
          rw [pushed] at sent
          cases sent
          exact ⟨inbound, w.outbound, rfl⟩
  | received received =>
      unfold receive at received
      split at received <;> cases received
      exact ⟨w.inbound, _, rfl⟩
  | _ => exact ⟨_, _, rfl⟩

theorem Hosts.stage (h : w.Hosts w') : w'.stage = w.stage := by
  obtain ⟨inbound, outbound, rfl⟩ := h.exists_queues
  rfl

theorem Hosts.session (h : w.Hosts w') : w'.session = w.session := by
  obtain ⟨inbound, outbound, rfl⟩ := h.exists_queues
  rfl

end Worker

namespace Registry

variable {E : Entity} {r r' : Registry E} {id : EntityId} {generation : Nat}

def isHeld (r : Registry E) (generation : Nat) : Bool :=
  r.workers[generation]?.any fun w => w.inbound.senders ≠ 0

/-- What a step of a worker leaves; its end is seen at once. -/
def stepped (r : Registry E) (generation : Nat) (stride : Stride E) : Registry E :=
  { r with
    roster :=
      if stride.worker.hasEnded then r.roster.finish generation stride.worker.report?
      else r.roster
    workers := r.workers.set generation stride.worker
    shared := stride.shared }

def work (r : Registry E) (generation : Nat) : Registry E :=
  match r.workers[generation]? with
  | none => r
  | some worker =>
    match worker.step? r.now r.shared with
    | none => r
    | some stride => r.stepped generation stride

theorem work_of_step? {w : Worker E} {stride : Stride E}
    (found : r.workers[generation]? = some w) (step : w.step? r.now r.shared = some stride) :
    r.work generation = r.stepped generation stride := by
  unfold work
  rw [found]
  dsimp only
  rw [step]

def record (r : Registry E) (generation : Nat) : Registry E :=
  { r with roster := (r.roster.record r.now generation).1 }

def publish (r : Registry E) (generation : Nat) : Registry E :=
  { r with roster := r.roster.publish generation }

def capacity (r : Registry E) : Nat := max r.settings.channelCapacity.toNat 1

/-- What is left when an identity that is not taken is opened. -/
def cleared (r : Registry E) (id : EntityId) : Registry E :=
  { r with roster := ((r.roster.reap r.now).1.consume id).1 }

theorem isTaken_cleared (r : Registry E) (id other : EntityId) :
    (r.cleared id).roster.isTaken other = (r.roster.reap r.now).1.isTaken other :=
  Roster.isTaken_consume (r.roster.reap r.now).1 id other

def CreatesWorker (r : Registry E) (id : EntityId) (worker : Worker E) : Prop :=
  Worker.create (r.channelOptions id ((r.roster.reap r.now).1.isTombstoned id))
    r.capacity r.settings.passivation = .ok worker

/-- The ways of opening a channel. -/
inductive Opens (r : Registry E) (id : EntityId) : Account E Opened → Prop
  | taken {notices : List Notice} (taken : (r.roster.reap r.now).1.isTaken id = true) :
      Opens r id ⟨r.reap.1, notices, [], .refused (.alreadyOpen id)⟩
  | oversized {notices : List Notice} {crash : Crash}
      (untaken : (r.roster.reap r.now).1.isTaken id = false)
      (crashed : Worker.capacityCrash? r.capacity = some crash) :
      Opens r id ⟨r.cleared id, notices, [], .panicked crash⟩
  | opened {notices : List Notice} {worker : Worker E}
      (untaken : (r.roster.reap r.now).1.isTaken id = false)
      (createsWorker : r.CreatesWorker id worker) :
      Opens r id ⟨(r.cleared id).addWorker id worker, notices, [],
        .channel r.roster.nextGeneration⟩

theorem opens (r : Registry E) (id : EntityId) : r.Opens id (r.openChannel id) := by
  unfold openChannel
  cases taken : r.reap.1.roster.isTaken id with
  | true =>
      simp only [taken, if_true]
      exact .taken taken
  | false =>
      simp only [taken, Bool.false_eq_true, if_false]
      split
      · next worker created => exact .opened taken created
      · next crash crashed =>
          refine .oversized taken ?_
          unfold Worker.create at crashed
          split at crashed
          · next crash' found =>
              cases crashed
              exact found
          · cases crashed

/-- What becomes of a registry when one thing happens. -/
inductive Becomes (r : Registry E) : Registry E → Prop
  | same : Becomes r r
  | reaped : Becomes r r.reap.1
  | cleared {id : EntityId} (untaken : (r.roster.reap r.now).1.isTaken id = false) :
      Becomes r (r.cleared id)
  | entered {id : EntityId} {worker : Worker E}
      (untaken : (r.roster.reap r.now).1.isTaken id = false)
      (createsWorker : r.CreatesWorker id worker) :
      Becomes r ((r.cleared id).addWorker id worker)
  | handled {generation : Nat} : Becomes r (r.reap.1.cloneHandle generation)
  | hosted {generation : Nat} {f : Worker E → Worker E}
      (hosts : ∀ w, r.workers[generation]? = some w → w.Hosts (f w)) :
      Becomes r (r.modifyWorker generation f)
  | collected {id : EntityId} {generation : Nat} {report : Option Report} {roster : Roster}
      (collected : r.roster.collect? id generation = some (report, roster)) :
      Becomes r { r with roster }
  | worked {generation : Nat} {w : Worker E} {stride : Stride E}
      (found : r.workers[generation]? = some w) (step : w.step? r.now r.shared = some stride) :
      Becomes r (r.stepped generation stride)
  | recorded {generation : Nat} : Becomes r (r.record generation)
  | published {generation : Nat} : Becomes r (r.publish generation)
  | passed {span : Nat} : Becomes r (r.advance span)

theorem becomes_openChannel (r : Registry E) (id : EntityId) :
    r.Becomes (r.openChannel id).registry := by
  generalize opened : r.openChannel id = account
  have ways := r.opens id
  rw [opened] at ways
  cases ways with
  | taken taken => exact .reaped
  | oversized untaken crashed => exact .cleared untaken
  | opened untaken createsWorker => exact .entered untaken createsWorker

theorem exists_hosts_of_send {message : Inbound} (sent : r.send generation message = .ok r') :
    ∃ f : Worker E → Worker E, (∀ w, r.workers[generation]? = some w → w.Hosts (f w)) ∧
      r' = r.modifyWorker generation f := by
  unfold send at sent
  split at sent
  · cases sent
  next worker found =>
    cases made : worker.send message with
    | error refusal =>
        rw [made] at sent
        cases sent
    | ok w' =>
        rw [made] at sent
        cases sent
        refine ⟨_, fun w held => ?_, rfl⟩
        rw [held] at found
        cases found
        exact .sent made

theorem exists_hosts_of_receive {message : Outbound}
    (received : r.receive generation = .message message r') :
    ∃ f : Worker E → Worker E, (∀ w, r.workers[generation]? = some w → w.Hosts (f w)) ∧
      r' = r.modifyWorker generation f := by
  unfold receive at received
  split at received
  · cases received
  next worker found =>
    split at received <;> cases received
    next w' made =>
      refine ⟨_, fun w held => ?_, rfl⟩
      rw [held] at found
      cases found
      exact .received made

/-- A worker was opened for the identity and has not finished. -/
def Busy (r : Registry E) (id : EntityId) (generation : Nat) : Prop :=
  r.roster.identity? generation = some id ∧
    ∃ w, r.workers[generation]? = some w ∧ w.hasEnded = false

/-- A worker that has not finished is on its post. -/
structure Orderly (r : Registry E) : Prop where
  sound : r.roster.Sound
  paired : r.workers.length = r.roster.posts.length
  employed : ∀ generation w, r.workers[generation]? = some w → w.hasEnded = false →
    r.roster.status? generation = some .working

theorem orderly_create (settings : Settings) (tracer : Tracer) (supply : Nat → Uuid) :
    (create settings tracer supply : Registry E).Orderly :=
  ⟨Roster.sound_empty _ _, rfl, fun _ _ h => (nomatch h)⟩

/-- A worker that has not finished holds the entry of its identity. -/
theorem Orderly.busy (orderly : r.Orderly) (busy : r.Busy id generation) :
    r.roster.generation? id = some generation := by
  obtain ⟨identity, w, found, unfinished⟩ := busy
  refine orderly.sound.reserved id generation identity ?_
  rw [Roster.isPublished_eq, orderly.employed generation w found unfinished]

/-- A change of the roster that takes no worker off its post. -/
theorem Orderly.follows (orderly : r.Orderly) {roster : Roster} (follows : r.roster.Follows roster)
    (working : ∀ generation, r.roster.status? generation = some .working →
      roster.status? generation = some .working) :
    ({ r with roster } : Registry E).Orderly where
  sound := orderly.sound.follows follows
  paired := orderly.paired.trans follows.length.symm
  employed := fun generation w found unfinished =>
    working generation (orderly.employed generation w found unfinished)

theorem Orderly.modifyWorker (orderly : r.Orderly) {f : Worker E → Worker E}
    (hosts : ∀ w, r.workers[generation]? = some w → w.Hosts (f w)) :
    (r.modifyWorker generation f).Orderly where
  sound := orderly.sound
  paired := (List.length_modify ..).trans orderly.paired
  employed := by
    intro other w found unfinished
    simp only [Registry.modifyWorker, List.getElem?_modify] at found
    obtain ⟨before, held, same⟩ := Option.map_eq_some_iff.mp found
    refine orderly.employed other before held ?_
    split at same
    · next equal =>
        subst equal same
        rwa [Worker.hasEnded_congr (hosts before held).stage] at unfinished
    · rwa [same]

theorem Orderly.reap (orderly : r.Orderly) : r.reap.1.Orderly :=
  orderly.follows (r.roster.follows_reap r.now) fun _ working => working

theorem Orderly.cleared (orderly : r.Orderly) (id : EntityId) : (r.cleared id).Orderly :=
  orderly.follows (r.roster.follows_consume r.now id) fun _ working => working

theorem Orderly.addWorker (orderly : r.Orderly) (untaken : r.roster.isTaken id = false)
    (worker : Worker E) : (r.addWorker id worker).Orderly where
  sound := orderly.sound.enter untaken
  paired := by simp [Registry.addWorker, Roster.enter, orderly.paired]
  employed := by
    intro generation w found unfinished
    simp only [Registry.addWorker, List.getElem?_append] at found
    simp only [Registry.addWorker]
    rw [Roster.status?_enter]
    split
    · rfl
    · next earlier =>
        refine orderly.employed generation w ?_ unfinished
        split at found
        · exact found
        · next beyond =>
            have last : generation - r.workers.length = 0 := by
              have bound := (List.getElem?_eq_some_iff.mp found).1
              simpa using bound
            have next : r.roster.nextGeneration = r.workers.length := orderly.paired.symm
            omega

theorem follows_stepped (r : Registry E) (generation : Nat) (stride : Stride E) :
    r.roster.Follows (r.stepped generation stride).roster := by
  unfold stepped
  dsimp only
  split
  · exact r.roster.follows_finish generation _
  · exact .refl r.roster

theorem Orderly.stepped (orderly : r.Orderly) {w : Worker E} {stride : Stride E}
    (found : r.workers[generation]? = some w) (step : w.step? r.now r.shared = some stride) :
    (r.stepped generation stride).Orderly := by
  have posted := orderly.employed generation w found (Worker.hasEnded_of_step? step)
  have follows := r.follows_stepped generation stride
  refine ⟨orderly.sound.follows follows, ?_, ?_⟩
  · exact List.length_set.trans (orderly.paired.trans follows.length.symm)
  intro other w' held unfinished
  simp only [Registry.stepped, List.getElem?_set] at held ⊢
  by_cases same : generation = other
  · subst same
    rw [if_pos rfl] at held
    split at held
    · cases held
      rw [unfinished]
      exact posted
    · cases held
  · rw [if_neg same] at held
    have working := orderly.employed other w' held unfinished
    split
    · rw [Roster.status?_finish_of_ne same]
      exact working
    · exact working

theorem Becomes.orderly (h : r.Becomes r') (orderly : r.Orderly) : r'.Orderly := by
  cases h with
  | same => exact orderly
  | reaped => exact orderly.reap
  | cleared untaken => exact orderly.cleared _
  | entered untaken createsWorker =>
      exact (orderly.cleared _).addWorker ((r.isTaken_cleared _ _).trans untaken) _
  | handled => exact orderly.reap.modifyWorker fun _ _ => .cloned
  | hosted hosts => exact orderly.modifyWorker hosts
  | collected collected =>
      refine orderly.follows (Roster.follows_collect? collected) fun other working => ?_
      rw [Roster.status?, Roster.posts_collect? collected]
      exact working
  | worked found step => exact orderly.stepped found step
  | recorded =>
      exact orderly.follows (r.roster.follows_record r.now _)
        fun _ working => Roster.status?_record_of_working _ _ working
  | published =>
      exact orderly.follows (r.roster.follows_publish _)
        fun _ working => Roster.status?_publish_of_working _ working
  | passed => exact ⟨orderly.sound, orderly.paired, orderly.employed⟩

theorem Becomes.settings (h : r.Becomes r') : r'.settings = r.settings := by
  cases h <;> rfl

/-- The entry of a worker that is not published stays. -/
theorem Becomes.kept (h : r.Becomes r') (found : r.roster.generation? id = some generation)
    (unpublished : r.roster.isPublished generation = false) :
    r'.roster.generation? id = some generation := by
  have follows {roster : Roster} (follows : r.roster.Follows roster) :
      roster.generation? id = some generation :=
    follows.kept id generation found unpublished
  cases h with
  | reaped => exact follows (r.roster.follows_reap r.now)
  | cleared untaken => exact follows (r.roster.follows_consume r.now _)
  | @entered other worker untaken createsWorker =>
      have kept := follows (r.roster.follows_reap r.now)
      have distinct : id ≠ other := by
        rintro rfl
        rw [Roster.isTaken_iff.mpr ⟨generation, kept⟩] at untaken
        cases untaken
      simp only [addWorker]
      rw [Roster.generation?_enter, if_neg distinct]
      exact follows (r.roster.follows_consume r.now other)
  | handled => exact follows (r.roster.follows_reap r.now)
  | collected collected => exact follows (Roster.follows_collect? collected)
  | worked found step => exact follows (r.follows_stepped _ _)
  | recorded => exact follows (r.roster.follows_record r.now _)
  | published => exact follows (r.roster.follows_publish _)
  | _ => exact found

end Registry

/-- A caller who waits for a worker to stop. -/
structure Waiter where
  entityId : EntityId
  /-- The worker that held the entry when the wait began. -/
  generation : Nat
  /-- What the wait came to. -/
  answer : Option (Option Report)

/-- A registry and those who wait for its workers. -/
structure Crowd (E : Entity) where
  registry : Registry E
  waiters : List Waiter

inductive Happening where
  | openChannel (id : EntityId)
  | handle (id : EntityId)
  | liveEntities
  | isTombstoned (id : EntityId)
  | beginWait (id : EntityId)
  | endWait (index : Nat)
  | send (generation : Nat) (message : Inbound)
  | receive (generation : Nat)
  | cloneHandle (generation : Nat)
  | dropHandle (generation : Nat)
  | dropReplies (generation : Nat)
  | work (generation : Nat)
  | record (generation : Nat)
  | publish (generation : Nat)
  | pass (span : Nat)

namespace Crowd

variable {E : Entity} {c : Crowd E} {id : EntityId} {generation : Nat}

def start (settings : Settings) (tracer : Tracer) (supply : Nat → Uuid) : Crowd E :=
  ⟨.create settings tracer supply, []⟩

/-- Wait for the worker that holds an entry; without one there is nothing to wait for. -/
def beginWait (c : Crowd E) (id : EntityId) : Crowd E :=
  match c.registry.roster.generation? id with
  | some generation => { c with waiters := c.waiters ++ [⟨id, generation, none⟩] }
  | none => c

def endWait (c : Crowd E) (index : Nat) : Crowd E :=
  match c.waiters[index]? with
  | some ⟨id, generation, none⟩ =>
    match c.registry.roster.collect? id generation with
    | some (report, roster) =>
      ⟨{ c.registry with roster }, c.waiters.set index ⟨id, generation, some report⟩⟩
    | none => c
  | _ => c

/-- What happens next; something that is not possible changes nothing. -/
def next (c : Crowd E) : Happening → Crowd E
  | .openChannel id => { c with registry := (c.registry.openChannel id).registry }
  | .handle id => { c with registry := (c.registry.handle id).registry }
  | .liveEntities => { c with registry := c.registry.liveEntities.registry }
  | .isTombstoned id => { c with registry := (c.registry.isTombstoned id).registry }
  | .beginWait id => c.beginWait id
  | .endWait index => c.endWait index
  | .send generation message =>
    if c.registry.isHeld generation then
      match c.registry.send generation message with
      | .ok registry => { c with registry }
      | .error _ => c
    else c
  | .receive generation =>
    match c.registry.receive generation with
    | .message _ registry => { c with registry }
    | _ => c
  | .cloneHandle generation =>
    if c.registry.isHeld generation then
      { c with registry := c.registry.cloneHandle generation }
    else c
  | .dropHandle generation => { c with registry := c.registry.dropHandle generation }
  | .dropReplies generation => { c with registry := c.registry.dropReplies generation }
  | .work generation => { c with registry := c.registry.work generation }
  | .record generation => { c with registry := c.registry.record generation }
  | .publish generation => { c with registry := c.registry.publish generation }
  | .pass span => { c with registry := c.registry.advance span }

def run (c : Crowd E) (happenings : List Happening) : Crowd E := happenings.foldl next c

/-- How the registry changes by each thing that happens. -/
inductive Changes (r : Registry E) : Happening → Registry E → Prop
  | idle {happening : Happening} (other : ∀ id, happening ≠ .openChannel id) :
      Changes r happening r
  | reaped {happening : Happening} (other : ∀ id, happening ≠ .openChannel id) :
      Changes r happening r.reap.1
  | opened {id : EntityId} : Changes r (.openChannel id) (r.openChannel id).registry
  | handled {id : EntityId} {generation : Nat} :
      Changes r (.handle id) (r.reap.1.cloneHandle generation)
  | hosted {happening : Happening} {generation : Nat} {f : Worker E → Worker E}
      (other : ∀ id, happening ≠ .openChannel id)
      (hosts : ∀ w, r.workers[generation]? = some w → w.Hosts (f w)) :
      Changes r happening (r.modifyWorker generation f)
  | collected {index : Nat} {id : EntityId} {generation : Nat} {report : Option Report}
      {roster : Roster} (collected : r.roster.collect? id generation = some (report, roster)) :
      Changes r (.endWait index) { r with roster }
  | worked {generation : Nat} {w : Worker E} {stride : Stride E}
      (found : r.workers[generation]? = some w) (step : w.step? r.now r.shared = some stride) :
      Changes r (.work generation) (r.stepped generation stride)
  | recorded {generation : Nat} : Changes r (.record generation) (r.record generation)
  | published {generation : Nat} : Changes r (.publish generation) (r.publish generation)
  | passed {span : Nat} : Changes r (.pass span) (r.advance span)

theorem changes_handle (r : Registry E) (id : EntityId) :
    Changes r (.handle id) (r.handle id).registry := by
  have added (generation : Nat) : Changes r (.handle id) (r.reap.1.cloneHandle generation) :=
    .handled
  have tidied : Changes r (.handle id) r.reap.1 := .reaped (by simp)
  unfold Registry.handle
  revert added tidied
  generalize r.reap = pair
  obtain ⟨kept, notices⟩ := pair
  intro added tidied
  dsimp only
  split
  · exact added _
  · exact tidied

theorem changes_next (c : Crowd E) (happening : Happening) :
    Changes c.registry happening (c.next happening).registry := by
  cases happening with
  | openChannel id => exact .opened
  | handle id => exact changes_handle c.registry id
  | liveEntities => exact .reaped (by simp)
  | isTombstoned id => exact .reaped (by simp)
  | beginWait id =>
      simp only [next, beginWait]
      split <;> exact .idle (by simp)
  | endWait index =>
      simp only [next, endWait]
      split
      next id generation waiting =>
        split
        next report roster collected => exact .collected collected
        · exact .idle (by simp)
      · exact .idle (by simp)
  | send generation message =>
      simp only [next]
      split
      · split
        next registry sent =>
          obtain ⟨f, hosts, rfl⟩ := Registry.exists_hosts_of_send sent
          exact .hosted (by simp) hosts
        · exact .idle (by simp)
      · exact .idle (by simp)
  | receive generation =>
      simp only [next]
      split
      next message registry received =>
        obtain ⟨f, hosts, rfl⟩ := Registry.exists_hosts_of_receive received
        exact .hosted (by simp) hosts
      · exact .idle (by simp)
  | cloneHandle generation =>
      simp only [next]
      split
      · exact .hosted (by simp) fun _ _ => .cloned
      · exact .idle (by simp)
  | dropHandle generation => exact .hosted (by simp) fun _ _ => .dropped
  | dropReplies generation => exact .hosted (by simp) fun _ _ => .deafened
  | work generation =>
      simp only [next, Registry.work]
      split
      · exact .idle (by simp)
      next worker found =>
        split
        · exact .idle (by simp)
        next stride step => exact .worked found step
  | record generation => exact .recorded
  | publish generation => exact .published
  | pass span => exact .passed

theorem becomes_next (c : Crowd E) (happening : Happening) :
    c.registry.Becomes (c.next happening).registry := by
  have change := c.changes_next happening
  generalize (c.next happening).registry = r at change ⊢
  cases change with
  | idle => exact .same
  | reaped => exact .reaped
  | opened => exact c.registry.becomes_openChannel _
  | handled => exact .handled
  | hosted other hosts => exact .hosted hosts
  | collected collected => exact .collected collected
  | worked found step => exact .worked found step
  | recorded => exact .recorded
  | published => exact .published
  | passed => exact .passed

theorem orderly_run (orderly : c.registry.Orderly) (happenings : List Happening) :
    (c.run happenings).registry.Orderly := by
  induction happenings generalizing c with
  | nil => exact orderly
  | cons happening later ih => exact ih ((c.becomes_next happening).orderly orderly)

theorem settings_run (c : Crowd E) (happenings : List Happening) :
    (c.run happenings).registry.settings = c.registry.settings := by
  induction happenings generalizing c with
  | nil => rfl
  | cons happening later ih =>
      exact (ih (c.next happening)).trans (c.becomes_next happening).settings

end Crowd

end EntityEngine
