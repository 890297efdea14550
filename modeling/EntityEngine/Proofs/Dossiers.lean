import EntityEngine.Proofs.Inspection

/-!
# Notes on identities

What a registry knows of an identity follows from what was done to that identity: from
the calls to open it, the ends of its workers and how they were dealt with, and the time
that has passed. It makes no difference what was done to others, nor whether anybody has
looked at the registry in between.
-/

namespace EntityEngine

/-- What is done to an identity. -/
inductive Deed where
  | opens
  | ends (report : Option Report)
  | records
  | publishes
  | passes (span : Nat)
deriving DecidableEq

namespace Status

/-- The status of a worker after what was done to its identity. A worker that is published
has nothing more done to it. -/
def after : Status → Deed → Status
  | working, .ends report => finished report
  | finished report, .records => recorded report
  | recorded report, .publishes => published report
  | status, _ => status

theorem eq_working_of_after {status : Status} {deed : Deed} (h : status.after deed = working) :
    status = working := by
  cases status <;> cases deed <;> cases h
  all_goals rfl

def published? : Status → Option (Option Report)
  | published report => some report
  | _ => none

theorem published?_eq_some_iff {status : Status} {report : Option Report} :
    status.published? = some report ↔ status = .published report := by
  cases status <;> simp [published?]

theorem after_of_published {status : Status} {report : Option Report}
    (published : status.published? = some report) (deed : Deed) : status.after deed = status := by
  rw [published?_eq_some_iff.mp published]
  rfl

end Status

/-- What a registry has noted of an identity. -/
structure Dossier where
  latest : Option Status
  /-- When the tombstone was recorded, if one stands. -/
  tombstone : Option Instant
  now : Instant
deriving DecidableEq

namespace Dossier

def blank : Dossier := ⟨none, none, 0⟩

def isFree (d : Dossier) : Bool := d.latest.all fun status => status.published?.isSome

def fits (settings : Settings) : Bool :=
  (Worker.capacityCrash? (max settings.channelCapacity.toNat 1)).isNone

/-- A tombstone, if it stands. -/
def remember (settings : Settings) (now : Instant) (since : Option Instant) : Option Instant :=
  since.filter fun since => now - since < settings.retention.total

theorem remember_remember (settings : Settings) {now later : Instant} (le : now ≤ later)
    (since : Option Instant) :
    remember settings later (remember settings now since) = remember settings later since := by
  unfold remember
  rw [Option.filter_filter]
  congr 1
  funext since
  rw [← Bool.decide_and]
  refine decide_eq_decide.mpr ⟨And.right, fun stands => ⟨?_, stands⟩⟩
  exact Nat.lt_of_le_of_lt (Nat.sub_le_sub_right le since) stands

/-- The worker that has ended left the entity deleted. -/
def deletes (d : Dossier) (id : EntityId) : Bool :=
  match d.latest with
  | some (.finished report) => Roster.deletedBy report = some id
  | _ => false

/-- The notes on an identity after something was done to it. -/
def after (settings : Settings) (id : EntityId) (d : Dossier) : Deed → Dossier
  | .opens =>
    if d.isFree then
      { d with latest := if fits settings then some .working else d.latest, tombstone := none }
    else d
  | .records =>
    { d with
      latest := d.latest.map (·.after .records)
      tombstone :=
        remember settings d.now (if d.deletes id then some d.now else d.tombstone) }
  | .passes span =>
    { d with now := d.now + span, tombstone := remember settings (d.now + span) d.tombstone }
  | deed => { d with latest := d.latest.map (·.after deed) }

/-- What the latest worker is published with, sooner or later. -/
def fate (settings : Settings) (id : EntityId) : Dossier → List Deed → Option (Option Report)
  | d, [] => d.latest.bind Status.published?
  | d, deed :: later =>
    (d.latest.bind Status.published?).orElse fun _ =>
      fate settings id (d.after settings id deed) later

theorem fate_of_published {settings : Settings} {id : EntityId} {d : Dossier}
    {report : Option Report} (published : d.latest.bind Status.published? = some report)
    (deeds : List Deed) : d.fate settings id deeds = some report := by
  cases deeds with
  | nil => exact published
  | cons deed later => rw [fate, published]; rfl

end Dossier

namespace Roster

variable {r r' : Roster} {id other : EntityId} {generation : Nat} {latest : Option Status}

/-- The status of the latest worker of an identity. -/
inductive LatestStatus (r : Roster) (id : EntityId) : Option Status → Prop
  | unopened (unopened : ∀ generation, r.identity? generation ≠ some id) : LatestStatus r id none
  | latest {generation : Nat} {status : Status} (latest : r.Latest id generation)
      (here : r.status? generation = some status) : LatestStatus r id (some status)

theorem isPublished_of_status {status : Status} (here : r.status? generation = some status) :
    r.isPublished generation = status.published?.isSome := by
  rw [isPublished_eq, here]
  cases status <;> rfl

theorem LatestStatus.unique {latest' : Option Status} (h : r.LatestStatus id latest)
    (h' : r.LatestStatus id latest') : latest = latest' := by
  cases h with
  | unopened unopened =>
      cases h' with
      | unopened => rfl
      | latest last => exact (unopened _ last.identity).elim
  | latest last here =>
      cases h' with
      | unopened unopened => exact (unopened _ last.identity).elim
      | latest last' here' =>
          rw [← here, ← here', last.unique last']

theorem LatestStatus.exists_post {status : Status} (h : r.LatestStatus id (some status)) :
    ∃ generation : Nat, r.posts[generation]? = some ⟨id, status⟩ := by
  cases h with
  | @latest generation _ last here =>
      obtain ⟨⟨_, _⟩, found, rfl⟩ := Option.map_eq_some_iff.mp last.identity
      obtain ⟨_, found', rfl⟩ := Option.map_eq_some_iff.mp here
      cases found.symm.trans found'
      exact ⟨generation, found⟩

theorem LatestStatus.free_iff (h : r.LatestStatus id latest) :
    r.Free id ↔ latest.all (fun status => status.published?.isSome) = true := by
  cases h with
  | unopened unopened => exact iff_of_true (.inl unopened) rfl
  | @latest generation status last here =>
      have published := isPublished_of_status here
      rw [Option.all_some, ← published]
      constructor
      · rintro (unopened | ⟨other, last', stopped⟩)
        · exact (unopened _ last.identity).elim
        · rwa [last.unique last']
      · exact fun stopped => .inr ⟨generation, last, stopped⟩

theorem LatestStatus.congr (h : r.LatestStatus id latest) (posts : r'.posts = r.posts) :
    r'.LatestStatus id latest := by
  obtain ⟨_, _, _, _, _⟩ := r
  obtain ⟨_, _, _, _, _⟩ := r'
  cases posts
  cases h with
  | unopened unopened => exact .unopened unopened
  | latest last here => exact .latest ⟨last.identity, last.last⟩ here

theorem exists_status (latest : r.Latest id generation) :
    ∃ status, r.status? generation = some status := by
  obtain ⟨post, found, -⟩ := Option.map_eq_some_iff.mp latest.identity
  exact ⟨post.status, congrArg (Option.map _) found⟩

theorem LatestStatus.map (h : r.LatestStatus id latest) (f : Status → Status)
    (identity : ∀ generation, r'.identity? generation = r.identity? generation)
    (status : ∀ generation status, r.identity? generation = some id →
      r.status? generation = some status → r'.status? generation = some (f status)) :
    r'.LatestStatus id (latest.map f) := by
  cases h with
  | unopened unopened => exact .unopened fun generation => identity generation ▸ unopened generation
  | latest last here =>
      refine .latest ⟨(identity _).trans last.identity, fun other opened => ?_⟩
        (status _ _ last.identity here)
      exact last.last other ((identity other).symm.trans opened)

theorem latest_enter (r : Roster) (id : EntityId) : (r.enter id).Latest id r.nextGeneration := by
  refine ⟨(identity?_enter ..).trans (if_pos rfl), fun other opened => ?_⟩
  have bound := lt_of_identity? opened
  simp only [enter, List.length_append, List.length_singleton] at bound
  exact Nat.le_of_lt_succ bound

theorem LatestStatus.enter (h : r.LatestStatus id latest) (other : EntityId) :
    (r.enter other).LatestStatus id (if other = id then some .working else latest) := by
  split
  next same =>
    subst same
    exact .latest (r.latest_enter other) ((status?_enter ..).trans (if_pos rfl))
  next distinct =>
    have old {generation : Nat} : (r.enter other).identity? generation = some id ↔
        r.identity? generation = some id := by
      rw [identity?_enter]
      split
      next last =>
        have unopened : r.identity? generation ≠ some id := fun opened =>
          Nat.lt_irrefl _ (last ▸ lt_of_identity? opened)
        simp [unopened, distinct]
      · rfl
    cases h with
    | unopened unopened => exact .unopened fun generation opened => unopened _ (old.mp opened)
    | latest last here =>
        have earlier := Nat.ne_of_lt (lt_of_identity? last.identity)
        refine .latest ⟨old.mpr last.identity, fun g opened => last.last g (old.mp opened)⟩ ?_
        exact (status?_enter ..).trans ((if_neg earlier).trans here)

/-- Two workers of one identity that are not published are the same. -/
theorem Sound.eq_of_unpublished (sound : r.Sound) {first second : Nat}
    (identity : r.identity? first = some id) (unpublished : r.isPublished first = false)
    (identity' : r.identity? second = some id) (unpublished' : r.isPublished second = false) :
    first = second :=
  Option.some.inj ((sound.reserved id first identity unpublished).symm.trans
    (sound.reserved id second identity' unpublished'))

/-- What is done to a worker that is not published is done to all workers of its identity. -/
theorem Sound.status?_setStatus (sound : r.Sound) {status status' : Status} {deed : Deed}
    (owner : r.identity? generation = some other) (here : r.status? generation = some status)
    (unpublished : status.published? = none) (becomes : status.after deed = status')
    {g : Nat} {before : Status} (identity : r.identity? g = some id)
    (found : r.status? g = some before) :
    (r.setStatus generation status').status? g =
      some (if other = id then before.after deed else before) := by
  rw [Roster.status?_setStatus]
  split
  next same =>
    subst same
    cases owner.symm.trans identity
    cases here.symm.trans found
    rw [here, if_pos rfl, becomes]
    rfl
  next different =>
    rw [found]
    split
    next same =>
      subst same
      have published : r.isPublished g = true := by
        by_contra remains
        rw [Bool.not_eq_true] at remains
        refine different (sound.eq_of_unpublished owner ?_ identity remains)
        rw [isPublished_of_status here, unpublished]
        rfl
      rw [isPublished_of_status found, Option.isSome_iff_exists] at published
      obtain ⟨report, published⟩ := published
      rw [Status.after_of_published published]
    · rfl

/-- No worker was opened, and to those of the identity was done what the deed says. -/
structure AppliesDeed (id : EntityId) (deed : Option Deed) (r r' : Roster) : Prop where
  identity : ∀ generation, r'.identity? generation = r.identity? generation
  status : ∀ generation status, r.identity? generation = some id →
    r.status? generation = some status →
      r'.status? generation = some (deed.elim status status.after)

theorem appliesDeed_of_posts {deed : Option Deed} (id : EntityId) (posts : r'.posts = r.posts)
    (idle : ∀ status : Status, deed.elim status status.after = status) :
    r.AppliesDeed id deed r' := by
  have same (generation : Nat) : r'.posts[generation]? = r.posts[generation]? := by rw [posts]
  refine ⟨fun generation => congrArg _ (same generation), fun generation status _ here => ?_⟩
  rw [idle, ← here]
  exact congrArg _ (same generation)

/-- The next status of a worker that is not published is a deed of its identity. -/
theorem Sound.appliesDeed_setStatus (sound : r.Sound) {named : EntityId} {status status' : Status}
    {deed : Deed} (found : r.posts[generation]? = some ⟨named, status⟩)
    (unpublished : status.published? = none) (becomes : status.after deed = status')
    (id : EntityId) (posts : r'.posts = (r.setStatus generation status').posts) :
    r.AppliesDeed id (if named = id then some deed else none) r' := by
  have same (g : Nat) : r'.posts[g]? = (r.setStatus generation status').posts[g]? := by
    rw [posts]
  refine ⟨fun g => (congrArg _ (same g)).trans (r.identity?_setStatus generation status' g), ?_⟩
  intro g before identity here
  have treated := sound.status?_setStatus (congrArg (Option.map _) found)
    (congrArg (Option.map _) found) unpublished becomes identity here
  refine (congrArg _ (same g)).trans (treated.trans ?_)
  split <;> rfl

theorem LatestStatus.appliesDeed {deed : Option Deed} (h : r.LatestStatus id latest)
    (appliesDeed : r.AppliesDeed id deed r') :
    r'.LatestStatus id (latest.map fun status => deed.elim status status.after) :=
  h.map _ appliesDeed.identity appliesDeed.status

end Roster

namespace Registry

variable {E : Entity} {r r' : Registry E} {id other : EntityId} {generation : Nat}

def tombstone? (r : Registry E) (id : EntityId) : Option Instant :=
  (r.roster.tombstones.get? id.text).filter (r.roster.stands r.now)

theorem tombstone?_reap (r : Registry E) (id : EntityId) :
    r.reap.1.tombstone? id = r.tombstone? id := by
  change ((r.roster.reap r.now).1.tombstones.get? id.text).filter (r.roster.stands r.now) = _
  rw [Roster.get?_reap, Option.filter_filter, tombstone?]
  simp only [Bool.and_self]

theorem tombstone?_of_untouched (untouched : r.roster.Untouched r'.roster)
    (now : r'.now = r.now) : r'.tombstone? id = r.tombstone? id := by
  unfold tombstone? Roster.stands
  rw [untouched.tombstones, untouched.retention, now]

theorem isTombstoned_eq (r : Registry E) (id : EntityId) :
    (r.isTombstoned id).result = (r.tombstone? id).isSome :=
  congrArg Option.isSome (Roster.get?_reap _ _ _)

structure Shows (settings : Settings) (r : Registry E) (id : EntityId) (d : Dossier) : Prop where
  kept : r.settings = settings
  retention : r.roster.retention = settings.retention
  latest : r.roster.LatestStatus id d.latest
  tombstone : r.tombstone? id = d.tombstone
  now : r.now = d.now

theorem shows_create (settings : Settings) (tracer : Tracer) (supply : Nat → Uuid)
    (id : EntityId) : (create settings tracer supply : Registry E).Shows settings id .blank :=
  ⟨rfl, rfl, .unopened fun _ opened => (nomatch opened), rfl, rfl⟩

theorem Orderly.exists_post_of_step? (orderly : r.Orderly) {w : Worker E} {stride : Stride E}
    (found : r.workers[generation]? = some w) (step : w.step? r.now r.shared = some stride) :
    ∃ named, r.roster.posts[generation]? = some ⟨named, .working⟩ := by
  have working := orderly.employed generation w found (Worker.hasEnded_of_step? step)
  obtain ⟨⟨named, _⟩, post, rfl⟩ := Option.map_eq_some_iff.mp working
  exact ⟨named, post⟩

variable {settings : Settings} {d d' : Dossier}

theorem tombstone?_cleared (r : Registry E) (id other : EntityId) :
    (r.cleared other).tombstone? id = if id = other then none else r.tombstone? id := by
  change (((r.roster.reap r.now).1.consume other).1.tombstones.get? id.text).filter
    (r.roster.stands r.now) = _
  rw [Roster.get?_consume]
  split
  · rfl
  · exact r.tombstone?_reap id

theorem Shows.becomes (shows : r.Shows settings id d) (becomes : r.Becomes r')
    (latest : r'.roster.LatestStatus id d'.latest) (tombstone : r'.tombstone? id = d'.tombstone)
    (now : r'.now = d'.now) : r'.Shows settings id d' :=
  ⟨becomes.settings.trans shows.kept, becomes.retention.trans shows.retention, latest, tombstone,
    now⟩

/-- Opening an identity makes no difference to another one. -/
theorem Shows.openChannel_other (shows : r.Shows settings id d) (distinct : other ≠ id) :
    (r.openChannel other).registry.Shows settings id d := by
  refine shows.becomes (r.becomes_openChannel other) ?_ ?_ ?_ <;>
    have ways := r.opens other <;>
    generalize r.openChannel other = account at ways ⊢
  · cases ways with
    | taken => exact shows.latest.congr rfl
    | oversized => exact shows.latest.congr rfl
    | opened =>
        have cleared : (r.cleared other).roster.LatestStatus id d.latest := shows.latest.congr rfl
        have entered := cleared.enter other
        rwa [if_neg distinct] at entered
  · cases ways with
    | taken => exact (r.tombstone?_reap id).trans shows.tombstone
    | oversized =>
        exact ((r.tombstone?_cleared id other).trans (if_neg (Ne.symm distinct))).trans
          shows.tombstone
    | opened =>
        exact ((r.tombstone?_cleared id other).trans (if_neg (Ne.symm distinct))).trans
          shows.tombstone
  · cases ways <;> exact shows.now

theorem Shows.isTaken_reap (shows : r.Shows settings id d) (orderly : r.Orderly) :
    (r.roster.reap r.now).1.isTaken id = !d.isFree := by
  rw [Bool.eq_iff_iff, orderly.sound.isTaken_reap, shows.latest.free_iff, Dossier.isFree,
    Bool.not_eq_true', Bool.not_eq_true]

theorem Shows.fits (shows : r.Shows settings id d) :
    Dossier.fits settings = (Worker.capacityCrash? r.capacity).isNone := by
  rw [capacity, shows.kept, Dossier.fits]

theorem Shows.openChannel (shows : r.Shows settings id d) (orderly : r.Orderly) :
    (r.openChannel id).registry.Shows settings id (d.after settings id .opens) := by
  have becomes := r.becomes_openChannel id
  have ways := r.opens id
  have taken := shows.isTaken_reap orderly
  have fits := shows.fits
  have cleared : (r.cleared id).tombstone? id = none :=
    (r.tombstone?_cleared id id).trans (if_pos rfl)
  generalize r.openChannel id = account at becomes ways ⊢
  cases ways with
  | taken reserved =>
      rw [reserved, eq_comm, Bool.not_eq_true'] at taken
      have same : d.after settings id .opens = d := by simp [Dossier.after, taken]
      rw [same]
      exact shows.becomes becomes (shows.latest.congr rfl)
        ((r.tombstone?_reap id).trans shows.tombstone) shows.now
  | oversized untaken crashed =>
      rw [untaken, eq_comm, Bool.not_eq_false'] at taken
      rw [crashed] at fits
      have next : d.after settings id .opens = { d with tombstone := none } := by
        simp [Dossier.after, taken, fits]
      rw [next]
      exact shows.becomes becomes (shows.latest.congr rfl) cleared shows.now
  | @opened _ worker untaken createsWorker =>
      rw [untaken, eq_comm, Bool.not_eq_false'] at taken
      have crashless : Worker.capacityCrash? r.capacity = none := by
        unfold CreatesWorker Worker.create at createsWorker
        split at createsWorker
        · cases createsWorker
        · next none => exact none
      rw [crashless] at fits
      have next : d.after settings id .opens =
          { d with latest := some .working, tombstone := none } := by
        simp [Dossier.after, taken, fits]
      have old : (r.cleared id).roster.LatestStatus id d.latest := shows.latest.congr rfl
      have entered := old.enter id
      rw [if_pos rfl] at entered
      rw [next]
      exact shows.becomes becomes entered cleared shows.now

end Registry

def Happening.isQuiet : Happening → Bool
  | .openChannel _ | .work _ | .record _ | .publish _ | .pass _ => false
  | _ => true

namespace Crowd

variable {E : Entity} {c : Crowd E} {id : EntityId} {generation : Nat}

def deed? (c : Crowd E) (id : EntityId) : Happening → Option Deed
  | .openChannel other => if other = id then some .opens else none
  | .work generation => do
    let w ← c.registry.workers[generation]?
    let stride ← w.step? c.registry.now c.registry.shared
    if stride.worker.hasEnded ∧ c.registry.roster.identity? generation = some id then
      some (.ends stride.worker.report?)
    else none
  | .record generation =>
    match c.registry.roster.posts[generation]? with
    | some ⟨other, .finished _⟩ => if other = id then some .records else none
    | _ => none
  | .publish generation =>
    match c.registry.roster.posts[generation]? with
    | some ⟨other, .recorded _⟩ => if other = id then some .publishes else none
    | _ => none
  | .pass span => some (.passes span)
  | _ => none

def deeds (id : EntityId) : Crowd E → List Happening → List Deed
  | _, [] => []
  | c, happening :: later => (c.deed? id happening).toList ++ deeds id (c.next happening) later

theorem quiet_next (id : EntityId) {happening : Happening} (quiet : happening.isQuiet = true) :
    c.deed? id happening = none ∧
      (c.next happening).registry.roster.posts = c.registry.roster.posts ∧
      (c.next happening).registry.tombstone? id = c.registry.tombstone? id ∧
      (c.next happening).registry.now = c.registry.now := by
  refine ⟨by cases happening <;> first | rfl | (cases quiet), ?_⟩
  have change := c.changes_next happening
  generalize (c.next happening).registry = r at change ⊢
  cases change with
  | idle => exact ⟨rfl, rfl, rfl⟩
  | reaped => exact ⟨rfl, c.registry.tombstone?_reap id, rfl⟩
  | handled => exact ⟨rfl, c.registry.tombstone?_reap id, rfl⟩
  | hosted => exact ⟨rfl, rfl, rfl⟩
  | collected collected =>
      exact ⟨Roster.posts_collect? collected,
        Registry.tombstone?_of_untouched (Roster.untouched_collect? collected) rfl, rfl⟩
  | _ => cases quiet

theorem appliesDeed_work (orderly : c.registry.Orderly) (id : EntityId) (generation : Nat) :
    c.registry.roster.AppliesDeed id (c.deed? id (.work generation))
      (c.next (.work generation)).registry.roster := by
  have same {deed : Option Deed} (none : deed = none) :
      c.registry.roster.AppliesDeed id deed c.registry.roster :=
    none ▸ Roster.appliesDeed_of_posts id rfl fun _ => rfl
  simp only [next, deed?, Registry.work]
  cases found : c.registry.workers[generation]? with
  | none => exact same rfl
  | some w =>
      simp only
      cases step : w.step? c.registry.now c.registry.shared with
      | none => exact same (by simp [step])
      | some stride =>
          obtain ⟨named, post⟩ := orderly.exists_post_of_step? found step
          have owner : c.registry.roster.identity? generation = some named :=
            congrArg (Option.map _) post
          cases ended : stride.worker.hasEnded with
          | false => simpa [step, ended, Registry.stepped] using same rfl
          | true =>
              have appliesDeed := orderly.sound.appliesDeed_setStatus post rfl
                (show Status.working.after (.ends stride.worker.report?) =
                  .finished stride.worker.report? from rfl) id rfl
              simpa [step, ended, owner, Registry.stepped, Roster.finish, post] using appliesDeed

theorem record_idle (id : EntityId) (unended : ∀ named report,
      c.registry.roster.posts[generation]? ≠ some ⟨named, .finished report⟩) :
    c.deed? id (.record generation) = none ∧ c.next (.record generation) = c := by
  have same : (c.registry.roster.record c.registry.now generation).1 = c.registry.roster := by
    unfold Roster.record
    split
    next post => exact (unended _ _ post).elim
    · rfl
  refine ⟨?_, congrArg (fun roster => (⟨{ c.registry with roster }, c.waiters⟩ : Crowd E)) same⟩
  simp only [deed?]

theorem appliesDeed_record (orderly : c.registry.Orderly) (id : EntityId) (generation : Nat) :
    c.registry.roster.AppliesDeed id (c.deed? id (.record generation))
      (c.next (.record generation)).registry.roster := by
  by_cases ended : ∃ named report,
      c.registry.roster.posts[generation]? = some ⟨named, .finished report⟩
  · obtain ⟨named, report, found⟩ := ended
    simp only [deed?, found]
    exact orderly.sound.appliesDeed_setStatus found rfl rfl id
      (Roster.posts_record c.registry.now found rfl)
  · obtain ⟨none, idle⟩ := record_idle id fun named report found => ended ⟨named, report, found⟩
    rw [none, idle]
    exact Roster.appliesDeed_of_posts id rfl fun _ => rfl

theorem appliesDeed_publish (orderly : c.registry.Orderly) (id : EntityId) (generation : Nat) :
    c.registry.roster.AppliesDeed id (c.deed? id (.publish generation))
      (c.next (.publish generation)).registry.roster := by
  have same : c.registry.roster.AppliesDeed id none c.registry.roster :=
    Roster.appliesDeed_of_posts id rfl fun _ => rfl
  simp only [next, deed?, Registry.publish]
  split
  next named report post =>
    refine orderly.sound.appliesDeed_setStatus post rfl
      (show Status.after (.recorded report) .publishes = .published report from rfl) id ?_
    simp only [Roster.publish, post]
  next other =>
    have idle : c.registry.roster.publish generation = c.registry.roster := by
      unfold Roster.publish
      split
      next post => exact (other _ _ post).elim
      · rfl
    rw [idle]
    exact same

theorem appliesDeed_next (orderly : c.registry.Orderly) (id : EntityId) {happening : Happening}
    (unopened : ∀ other, happening ≠ .openChannel other) :
    c.registry.roster.AppliesDeed id (c.deed? id happening) (c.next happening).registry.roster := by
  cases quiet : happening.isQuiet with
  | true =>
      obtain ⟨none, posts, -, -⟩ := quiet_next id quiet
      rw [none]
      exact Roster.appliesDeed_of_posts id posts fun _ => rfl
  | false =>
      cases happening with
      | openChannel other => exact (unopened other rfl).elim
      | work generation => exact appliesDeed_work orderly id generation
      | record generation => exact appliesDeed_record orderly id generation
      | publish generation => exact appliesDeed_publish orderly id generation
      | pass span => exact Roster.appliesDeed_of_posts id rfl fun status => by cases status <;> rfl
      | _ => cases quiet

variable {settings : Settings} {d : Dossier}

theorem remember_eq (shows : c.registry.Shows settings id d) (now : Instant)
    (since : Option Instant) :
    since.filter (c.registry.roster.stands now) = Dossier.remember settings now since := by
  unfold Dossier.remember Roster.stands
  rw [shows.retention]

theorem tombstone_eq (shows : c.registry.Shows settings id d) :
    d.tombstone =
      Dossier.remember settings d.now (c.registry.roster.tombstones.get? id.text) := by
  rw [← shows.tombstone, ← shows.now]
  exact remember_eq shows _ _

theorem untouched_work (c : Crowd E) (generation : Nat) :
    c.registry.roster.Untouched (c.next (.work generation)).registry.roster ∧
      (c.next (.work generation)).registry.now = c.registry.now := by
  simp only [next, Registry.work]
  split
  · exact ⟨⟨rfl, rfl⟩, rfl⟩
  · split
    · exact ⟨⟨rfl, rfl⟩, rfl⟩
    · refine ⟨?_, rfl⟩
      unfold Registry.stepped
      simp only
      split
      · exact Roster.untouched_finish _ _ _
      · exact ⟨rfl, rfl⟩

/-- The notes after something that leaves the tombstones and the clock alone. -/
theorem shows_of_untouched (orderly : c.registry.Orderly)
    (shows : c.registry.Shows settings id d) {happening : Happening}
    (unopened : ∀ other, happening ≠ .openChannel other)
    (tombstone : (c.next happening).registry.tombstone? id = c.registry.tombstone? id)
    (now : (c.next happening).registry.now = c.registry.now)
    (plain : (c.deed? id happening).elim d (d.after settings id) =
      { d with latest := d.latest.map fun status =>
          (c.deed? id happening).elim status status.after }) :
    (c.next happening).registry.Shows settings id
      ((c.deed? id happening).elim d (d.after settings id)) := by
  rw [plain]
  exact shows.becomes (c.becomes_next happening)
    (shows.latest.appliesDeed (appliesDeed_next orderly id unopened))
    (tombstone.trans shows.tombstone)
    (now.trans shows.now)

theorem shows_quiet (orderly : c.registry.Orderly) (shows : c.registry.Shows settings id d)
    {happening : Happening} (quiet : happening.isQuiet = true) :
    (c.next happening).registry.Shows settings id
      ((c.deed? id happening).elim d (d.after settings id)) := by
  obtain ⟨none, -, tombstone, now⟩ := quiet_next id quiet
  refine shows_of_untouched orderly shows (by rintro other rfl; cases quiet) tombstone now ?_
  simp [none]

theorem shows_work (orderly : c.registry.Orderly) (shows : c.registry.Shows settings id d)
    (generation : Nat) :
    (c.next (.work generation)).registry.Shows settings id
      ((c.deed? id (.work generation)).elim d (d.after settings id)) := by
  obtain ⟨untouched, now⟩ := c.untouched_work generation
  refine shows_of_untouched orderly shows (by simp)
    (Registry.tombstone?_of_untouched untouched now) now ?_
  have deed : c.deed? id (.work generation) = none ∨
      ∃ report, c.deed? id (.work generation) = some (.ends report) := by
    cases done : c.deed? id (.work generation) with
    | none => exact .inl rfl
    | some deed =>
        simp only [deed?, Option.bind_eq_bind, Option.bind_eq_some_iff] at done
        obtain ⟨w, -, stride, -, ends⟩ := done
        split at ends <;> cases ends
        exact .inr ⟨_, rfl⟩
  obtain none | ⟨report, ends⟩ := deed
  · simp [none]
  · simp [ends, Dossier.after]

theorem shows_publish (orderly : c.registry.Orderly) (shows : c.registry.Shows settings id d)
    (generation : Nat) :
    (c.next (.publish generation)).registry.Shows settings id
      ((c.deed? id (.publish generation)).elim d (d.after settings id)) := by
  refine shows_of_untouched orderly shows (by simp)
    (Registry.tombstone?_of_untouched (Roster.untouched_publish _ generation) rfl) rfl ?_
  simp only [deed?]
  split
  · split <;> simp [Dossier.after]
  · simp

theorem shows_pass (shows : c.registry.Shows settings id d) (span : Nat) :
    (c.next (.pass span)).registry.Shows settings id (d.after settings id (.passes span)) := by
  refine shows.becomes (c.becomes_next (.pass span)) (shows.latest.congr rfl) ?_
    (congrArg (· + span) shows.now)
  have later : (c.next (.pass span)).registry.tombstone? id =
      Dossier.remember settings (d.now + span) (c.registry.roster.tombstones.get? id.text) := by
    rw [← shows.now]
    exact remember_eq shows _ _
  rw [later, Dossier.after, tombstone_eq shows,
    Dossier.remember_remember settings (Nat.le_add_right ..)]

theorem latest_of_unpublished (orderly : c.registry.Orderly)
    (shows : c.registry.Shows settings id d) {status : Status}
    (found : c.registry.roster.posts[generation]? = some ⟨id, status⟩)
    (unpublished : status.published? = none) : d.latest = some status := by
  have identity : c.registry.roster.identity? generation = some id := congrArg (Option.map _) found
  have here : c.registry.roster.status? generation = some status := congrArg (Option.map _) found
  have last := orderly.sound.latest id generation (orderly.sound.reserved id generation identity
    ((Roster.isPublished_of_status here).trans (congrArg Option.isSome unpublished)))
  exact shows.latest.unique (.latest last here)

theorem get?_record (attributed : c.registry.Attributed) {named : EntityId}
    {report : Option Report}
    (found : c.registry.roster.posts[generation]? = some ⟨named, .finished report⟩)
    (id : EntityId) :
    (c.registry.record generation).roster.tombstones.get? id.text =
      if named = id ∧ Roster.deletedBy report = some id then some c.registry.now
      else c.registry.roster.tombstones.get? id.text := by
  rw [Registry.record, Roster.tombstones_record c.registry.now found rfl]
  cases deletes : Roster.deletedBy report with
  | none => simp
  | some buried =>
      obtain ⟨rfl, -⟩ := attributed.deletionUnrecorded found deletes
      simp only [Dictionary.get?_insert, Roster.text_eq_iff, Option.some.injEq, and_self,
        eq_comm]

theorem shows_record (orderly : c.registry.Orderly) (attributed : c.registry.Attributed)
    (shows : c.registry.Shows settings id d) (generation : Nat) :
    (c.next (.record generation)).registry.Shows settings id
      ((c.deed? id (.record generation)).elim d (d.after settings id)) := by
  have becomes := c.becomes_next (.record generation)
  have latestStatus := shows.latest.appliesDeed (appliesDeed_record orderly id generation)
  have stands : (c.next (.record generation)).registry.tombstone? id =
      Dossier.remember settings d.now
        ((c.registry.record generation).roster.tombstones.get? id.text) := by
    rw [← shows.now, ← remember_eq shows]
    unfold Registry.tombstone? Roster.stands
    rw [becomes.retention]
    rfl
  by_cases ended : ∃ named report,
      c.registry.roster.posts[generation]? = some ⟨named, .finished report⟩
  · obtain ⟨named, report, found⟩ := ended
    have deed : c.deed? id (.record generation) = if named = id then some .records else none := by
      simp only [deed?, found]
    rw [get?_record attributed found] at stands
    rw [deed] at latestStatus ⊢
    by_cases same : named = id
    · subst same
      have deletes : d.deletes named = decide (Roster.deletedBy report = some named) := by
        rw [Dossier.deletes, latest_of_unpublished orderly shows found rfl]
      rw [if_pos rfl] at latestStatus ⊢
      refine shows.becomes becomes latestStatus (stands.trans ?_) shows.now
      simp only [Option.elim_some, Dossier.after, deletes, decide_eq_true_eq, true_and, shows.now]
      split
      · rfl
      · rw [tombstone_eq shows, Dossier.remember_remember settings (Nat.le_refl _)]
    · rw [if_neg same] at latestStatus ⊢
      rw [if_neg fun both => same both.1, ← tombstone_eq shows] at stands
      refine shows.becomes becomes ?_ stands shows.now
      simpa using latestStatus
  · obtain ⟨none, idle⟩ := record_idle id fun named report found => ended ⟨named, report, found⟩
    rw [none, idle]
    exact shows

theorem shows_next (orderly : c.registry.Orderly) (attributed : c.registry.Attributed)
    (shows : c.registry.Shows settings id d) (happening : Happening) :
    (c.next happening).registry.Shows settings id
      ((c.deed? id happening).elim d (d.after settings id)) := by
  cases quiet : happening.isQuiet with
  | true => exact shows_quiet orderly shows quiet
  | false =>
      cases happening with
      | openChannel other =>
          by_cases same : other = id
          · subst same
            rw [deed?, if_pos rfl]
            exact shows.openChannel orderly
          · rw [deed?, if_neg same]
            exact shows.openChannel_other same
      | work generation => exact shows_work orderly shows generation
      | record generation => exact shows_record orderly attributed shows generation
      | publish generation => exact shows_publish orderly shows generation
      | pass span => exact shows_pass shows span
      | _ => cases quiet

/-- A publication is never taken back. -/
theorem published_next (orderly : c.registry.Orderly) {report : Option Report}
    (published : c.registry.roster.status? generation = some (.published report))
    (happening : Happening) :
    (c.next happening).registry.roster.status? generation = some (.published report) := by
  obtain ⟨⟨owner, status⟩, found, rfl⟩ := Option.map_eq_some_iff.mp published
  by_cases opens : ∃ other, happening = .openChannel other
  · obtain ⟨other, rfl⟩ := opens
    have ways := c.registry.opens other
    simp only [next]
    generalize c.registry.openChannel other = account at ways ⊢
    cases ways with
    | taken => exact published
    | oversized => exact published
    | opened =>
        have earlier := Nat.ne_of_lt (List.getElem?_eq_some_iff.mp found).1
        exact (Roster.status?_enter ..).trans ((if_neg earlier).trans published)
  · have appliesDeed := appliesDeed_next orderly owner fun other same => opens ⟨other, same⟩
    rw [appliesDeed.status generation _ (congrArg (Option.map _) found) published]
    cases c.deed? owner happening <;> rfl

theorem published_run (orderly : c.registry.Orderly) {report : Option Report}
    (published : c.registry.roster.status? generation = some (.published report))
    (happenings : List Happening) :
    (c.run happenings).registry.roster.status? generation = some (.published report) := by
  induction happenings generalizing c with
  | nil => exact published
  | cons happening later ih =>
      exact ih ((c.becomes_next happening).orderly orderly)
        (published_next orderly published happening)

/-- No later worker is opened until the latest one is published. -/
theorem latest_next (orderly : c.registry.Orderly)
    (latest : c.registry.roster.Latest id generation)
    (unpublished : c.registry.roster.isPublished generation = false) (happening : Happening) :
    (c.next happening).registry.roster.Latest id generation := by
  have step := c.becomes_next happening
  have reserved := orderly.sound.reserved id generation latest.identity unpublished
  exact (step.orderly orderly).sound.latest id generation (step.kept reserved unpublished)

/-- What the latest worker of an identity is published with in the end follows from what is
done to the identity. -/
theorem fate_run (orderly : c.registry.Orderly) (attributed : c.registry.Attributed)
    (shows : c.registry.Shows settings id d) (latest : c.registry.roster.Latest id generation)
    (later : List Happening) :
    ((c.run later).registry.roster.status? generation).bind Status.published? =
      d.fate settings id (c.deeds id later) := by
  obtain ⟨status, here⟩ := Roster.exists_status latest
  have noted : d.latest = some status := shows.latest.unique (.latest latest here)
  induction later generalizing c d status with
  | nil => rw [deeds, Dossier.fate, noted, ← here]; rfl
  | cons happening later ih =>
      have step := c.becomes_next happening
      cases published : status.published? with
      | some report =>
          have told : d.latest.bind Status.published? = some report := by
            rw [noted]
            exact published
          rw [Status.published?_eq_some_iff.mp published] at here
          rw [published_run orderly here (happening :: later), Dossier.fate_of_published told]
          rfl
      | none =>
          have unpublished : c.registry.roster.isPublished generation = false := by
            rw [Roster.isPublished_of_status here, published]
            rfl
          have latest' := latest_next orderly latest unpublished happening
          have shows' := shows_next orderly attributed shows happening
          obtain ⟨status', here'⟩ := Roster.exists_status latest'
          have rest := ih (step.orderly orderly) (step.attributed orderly attributed) shows' latest'
            status' here' (shows'.latest.unique (.latest latest' here'))
          refine rest.trans ?_
          rw [deeds]
          cases c.deed? id happening with
          | none => rfl
          | some deed => simp [Dossier.fate, noted, published]

end Crowd

end EntityEngine
