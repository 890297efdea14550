import EntityEngine.Roster
import Mathlib.Data.Nat.Find

/-!
# Reserved identities

An identity is reserved by each of its workers from the opening until the worker is
published as stopped. The entries of the roster agree with that: whoever holds an entry
is the latest worker of its identity, and every worker that is not published holds one.
No change of the roster breaks this, whether it opens a worker, moves one on towards its
publication, or drops entries that are no longer needed.
-/

namespace EntityEngine

namespace Roster

variable {r r' : Roster} {id : EntityId} {generation : Nat}

/-- The identity that a worker was opened for. -/
def identity? (r : Roster) (generation : Nat) : Option EntityId :=
  r.posts[generation]?.map Post.entityId

def status? (r : Roster) (generation : Nat) : Option Status :=
  r.posts[generation]?.map Post.status

/-- No later worker was opened for the identity. -/
structure Latest (r : Roster) (id : EntityId) (generation : Nat) : Prop where
  identity : r.identity? generation = some id
  last : ∀ other, r.identity? other = some id → other ≤ generation

/-- No worker was ever opened for the identity, or the latest one is published as
stopped. -/
def Free (r : Roster) (id : EntityId) : Prop :=
  (∀ generation, r.identity? generation ≠ some id) ∨
    ∃ generation, r.Latest id generation ∧ r.isPublished generation = true

theorem Latest.unique {other : Nat} (h : r.Latest id generation) (h' : r.Latest id other) :
    generation = other :=
  Nat.le_antisymm (h'.last _ h.identity) (h.last _ h'.identity)

theorem lt_of_identity? (h : r.identity? generation = some id) : generation < r.posts.length := by
  obtain ⟨post, found, -⟩ := Option.map_eq_some_iff.mp h
  exact (List.getElem?_eq_some_iff.mp found).1

theorem exists_latest (h : r.identity? generation = some id) : ∃ last, r.Latest id last := by
  refine ⟨Nat.findGreatest (r.identity? · = some id) r.posts.length, ?_, fun other found => ?_⟩
  · exact Nat.findGreatest_spec (P := (r.identity? · = some id))
      (Nat.le_of_lt (lt_of_identity? h)) h
  · exact Nat.le_findGreatest (Nat.le_of_lt (lt_of_identity? found)) found

theorem isPublished_eq (r : Roster) (generation : Nat) :
    r.isPublished generation =
      match r.status? generation with
      | some (.published _) => true
      | _ => false := by
  unfold isPublished status?
  cases r.posts[generation]? with
  | none => rfl
  | some post =>
      obtain ⟨entityId, status⟩ := post
      cases status <;> rfl

theorem identity?_setStatus (r : Roster) (generation : Nat) (status : Status) (other : Nat) :
    (r.setStatus generation status).identity? other = r.identity? other := by
  unfold identity? setStatus
  rw [List.getElem?_modify]
  cases r.posts[other]? with
  | none => rfl
  | some post => by_cases h : generation = other <;> simp [h]

theorem status?_setStatus (r : Roster) (generation : Nat) (status : Status) (other : Nat) :
    (r.setStatus generation status).status? other =
      if generation = other then (r.status? other).map fun _ => status else r.status? other := by
  unfold status? setStatus
  rw [List.getElem?_modify]
  cases r.posts[other]? with
  | none => split <;> rfl
  | some post => by_cases same : generation = other <;> simp [same]

theorem status?_setStatus_of_ne {other : Nat} (h : generation ≠ other) (status : Status) :
    (r.setStatus generation status).status? other = r.status? other := by
  rw [status?_setStatus, if_neg h]

theorem isPublished_setStatus_of_ne {other : Nat} (h : generation ≠ other) (status : Status) :
    (r.setStatus generation status).isPublished other = r.isPublished other := by
  rw [isPublished_eq, isPublished_eq, status?_setStatus_of_ne h]

/-- A change that opens no worker, takes no publication back, and drops the entries of
published workers only. -/
structure Follows (r r' : Roster) : Prop where
  length : r'.posts.length = r.posts.length
  identity : ∀ generation, r'.identity? generation = r.identity? generation
  published : ∀ generation, r.isPublished generation = true → r'.isPublished generation = true
  entries : ∀ id generation, r'.generation? id = some generation →
    r.generation? id = some generation
  kept : ∀ id generation, r.generation? id = some generation →
    r.isPublished generation = false → r'.generation? id = some generation

theorem Follows.refl (r : Roster) : r.Follows r :=
  ⟨rfl, fun _ => rfl, fun _ h => h, fun _ _ h => h, fun _ _ h _ => h⟩

/-- The tombstones do not matter. -/
theorem Follows.congr {r'' : Roster} (h : r.Follows r') (posts : r''.posts = r'.posts)
    (live : r''.live = r'.live) : r.Follows r'' := by
  cases r'
  cases r''
  cases posts
  cases live
  exact ⟨h.length, h.identity, h.published, h.entries, h.kept⟩

theorem follows_setStatus (h : r.isPublished generation = false) (status : Status) :
    r.Follows (r.setStatus generation status) where
  length := List.length_modify ..
  identity := r.identity?_setStatus generation status
  published := by
    intro other published
    have different : generation ≠ other := by
      rintro rfl
      rw [h] at published
      cases published
    rw [isPublished_setStatus_of_ne different]
    exact published
  entries := fun _ _ found => found
  kept := fun _ _ found _ => found

theorem generation?_reap (r : Roster) (now : Instant) (id : EntityId) :
    (r.reap now).1.generation? id =
      (r.generation? id).filter fun generation => !r.isPublished generation :=
  Dictionary.get?_filter _ _ _

theorem follows_reap (r : Roster) (now : Instant) : r.Follows (r.reap now).1 where
  length := rfl
  identity := fun _ => rfl
  published := fun _ h => h
  entries := by
    intro id generation found
    rw [generation?_reap] at found
    exact (Option.filter_eq_some_iff.mp found).1
  kept := by
    intro id generation found unpublished
    rw [generation?_reap, found]
    simp [Option.filter, unpublished]

@[simp] theorem posts_consume (r : Roster) (id : EntityId) : (r.consume id).1.posts = r.posts := rfl

@[simp] theorem live_consume (r : Roster) (id : EntityId) : (r.consume id).1.live = r.live := rfl

@[simp] theorem isTaken_consume (r : Roster) (id other : EntityId) :
    (r.consume id).1.isTaken other = r.isTaken other := rfl

theorem follows_consume (r : Roster) (now : Instant) (id : EntityId) :
    r.Follows ((r.reap now).1.consume id).1 :=
  (r.follows_reap now).congr (posts_consume _ id) (live_consume _ id)

theorem text_eq_iff {id other : EntityId} : other.text = id.text ↔ other = id := by
  cases other
  cases id
  simp

theorem generation?_erase (r : Roster) (id other : EntityId) :
    ({ r with live := r.live.erase id.text } : Roster).generation? other =
      if other = id then none else r.generation? other := by
  simp only [generation?, Dictionary.get?_erase, text_eq_iff]

theorem follows_erase (held : r.generation? id = some generation)
    (published : r.isPublished generation = true) :
    r.Follows { r with live := r.live.erase id.text } where
  length := rfl
  identity := fun _ => rfl
  published := fun _ h => h
  entries := by
    intro other g found
    rw [generation?_erase] at found
    split at found
    · cases found
    · exact found
  kept := by
    intro other g found unpublished
    have different : other ≠ id := by
      rintro rfl
      rw [held] at found
      cases found
      rw [published] at unpublished
      cases unpublished
    rw [generation?_erase, if_neg different]
    exact found

theorem follows_collect? {report : Option Report}
    (h : r.collect? id generation = some (report, r')) : r.Follows r' := by
  unfold collect? at h
  split at h
  · next entityId stopped post =>
      have published : r.isPublished generation = true := by
        unfold isPublished
        rw [post]
      cases h
      split
      · next held => exact follows_erase held published
      · exact .refl r
  · cases h

theorem posts_collect? {report : Option Report}
    (h : r.collect? id generation = some (report, r')) : r'.posts = r.posts := by
  unfold collect? at h
  split at h
  · cases h
    split <;> rfl
  · cases h

theorem follows_finish (r : Roster) (generation : Nat) (report : Option Report) :
    r.Follows (r.finish generation report) := by
  unfold finish
  split
  · next entityId post => exact follows_setStatus (by unfold isPublished; rw [post]) _
  · exact .refl r

theorem follows_record (r : Roster) (now : Instant) (generation : Nat) :
    r.Follows (r.record now generation).1 := by
  unfold record
  split
  · next entityId report post =>
      have recorded : r.Follows (r.setStatus generation (.recorded report)) :=
        follows_setStatus (by unfold isPublished; rw [post]) _
      cases deletedBy report with
      | none => exact recorded
      | some id => exact recorded.congr rfl rfl
  · exact .refl r

theorem follows_publish (r : Roster) (generation : Nat) : r.Follows (r.publish generation) := by
  unfold publish
  split
  · next entityId report post => exact follows_setStatus (by unfold isPublished; rw [post]) _
  · exact .refl r

theorem status?_finish_of_ne {other : Nat} (h : generation ≠ other) (report : Option Report) :
    (r.finish generation report).status? other = r.status? other := by
  unfold finish
  split
  · exact status?_setStatus_of_ne h _
  · rfl

theorem status?_record_of_working {other : Nat} (now : Instant) (generation : Nat)
    (h : r.status? other = some .working) :
    (r.record now generation).1.status? other = some .working := by
  unfold record
  split
  · next entityId report post =>
      have different : generation ≠ other := by
        rintro rfl
        rw [status?, post] at h
        cases h
      have kept := (status?_setStatus_of_ne different (.recorded report)).trans h
      cases deletedBy report with
      | none => exact kept
      | some id => exact kept
  · exact h

theorem status?_publish_of_working {other : Nat} (generation : Nat)
    (h : r.status? other = some .working) :
    (r.publish generation).status? other = some .working := by
  unfold publish
  split
  · next entityId report post =>
      have different : generation ≠ other := by
        rintro rfl
        rw [status?, post] at h
        cases h
      exact (status?_setStatus_of_ne different _).trans h
  · exact h

/-- The entries are those of latest workers, and of all that are not published. -/
structure Sound (r : Roster) : Prop where
  reserved : ∀ id generation, r.identity? generation = some id →
    r.isPublished generation = false → r.generation? id = some generation
  latest : ∀ id generation, r.generation? id = some generation → r.Latest id generation

theorem sound_empty (entityType : String) (retention : Duration) :
    (Roster.empty entityType retention).Sound :=
  ⟨fun _ _ h => (nomatch h), fun _ _ h => (nomatch h)⟩

theorem Sound.follows (sound : r.Sound) (follows : r.Follows r') : r'.Sound where
  reserved := by
    intro id generation identity unpublished
    have before : r.isPublished generation = false := by
      cases published : r.isPublished generation with
      | false => rfl
      | true =>
          rw [follows.published generation published] at unpublished
          cases unpublished
    rw [follows.identity] at identity
    exact follows.kept id generation (sound.reserved id generation identity before) before
  latest := by
    intro id generation found
    obtain ⟨identity, last⟩ := sound.latest id generation (follows.entries id generation found)
    refine ⟨(follows.identity generation).trans identity, fun other found => ?_⟩
    rw [follows.identity] at found
    exact last other found

theorem posts_enter (r : Roster) (id : EntityId) (generation : Nat) :
    (r.enter id).posts[generation]? =
      if generation = r.nextGeneration then some ⟨id, .working⟩ else r.posts[generation]? := by
  unfold enter nextGeneration
  rw [List.getElem?_append]
  split
  · next within => rw [if_neg (Nat.ne_of_lt within)]
  · next beyond =>
      split
      · next next => simp [next]
      · next other =>
          have missing : r.posts[generation]? = none := List.getElem?_eq_none (by omega)
          rw [missing, List.getElem?_eq_none]
          rw [List.length_singleton]
          omega

theorem identity?_enter (r : Roster) (id : EntityId) (generation : Nat) :
    (r.enter id).identity? generation =
      if generation = r.nextGeneration then some id else r.identity? generation := by
  unfold identity?
  rw [posts_enter]
  split <;> rfl

theorem status?_enter (r : Roster) (id : EntityId) (generation : Nat) :
    (r.enter id).status? generation =
      if generation = r.nextGeneration then some .working else r.status? generation := by
  unfold status?
  rw [posts_enter]
  split <;> rfl

theorem generation?_enter (r : Roster) (id other : EntityId) :
    (r.enter id).generation? other =
      if other = id then some r.nextGeneration else r.generation? other := by
  simp only [generation?, enter, Dictionary.get?_insert, text_eq_iff]

theorem isTaken_iff : r.isTaken id = true ↔ ∃ generation, r.generation? id = some generation :=
  Option.isSome_iff_exists

theorem Sound.enter (sound : r.Sound) (untaken : r.isTaken id = false) : (r.enter id).Sound where
  reserved := by
    intro other generation identity unpublished
    rw [identity?_enter] at identity
    rw [generation?_enter]
    split at identity
    · next next =>
        cases identity
        rw [if_pos rfl, next]
    · next different =>
        have before : r.isPublished generation = false := by
          rwa [isPublished_eq, status?_enter, if_neg different, ← isPublished_eq] at unpublished
        have held := sound.reserved other generation identity before
        have distinct : other ≠ id := by
          rintro rfl
          rw [isTaken_iff.mpr ⟨generation, held⟩] at untaken
          cases untaken
        rw [if_neg distinct]
        exact held
  latest := by
    intro other generation found
    rw [generation?_enter] at found
    split at found
    · next same =>
        cases found
        refine ⟨by rw [identity?_enter, if_pos rfl, same], fun g opened => ?_⟩
        have bound := lt_of_identity? opened
        simp only [Roster.enter, List.length_append, List.length_singleton] at bound
        exact Nat.le_of_lt_succ bound
    · next distinct =>
        obtain ⟨identity, last⟩ := sound.latest other generation found
        have earlier : generation ≠ r.nextGeneration := Nat.ne_of_lt (lt_of_identity? identity)
        refine ⟨by rwa [identity?_enter, if_neg earlier], fun g opened => ?_⟩
        rw [identity?_enter] at opened
        split at opened
        · cases opened
          exact absurd rfl distinct
        · exact last g opened

theorem Sound.isTaken_reap (sound : r.Sound) (now : Instant) :
    (r.reap now).1.isTaken id = true ↔ ¬r.Free id := by
  rw [isTaken_iff]
  constructor
  · rintro ⟨generation, found⟩
    rw [generation?_reap] at found
    obtain ⟨found, unpublished⟩ := Option.filter_eq_some_iff.mp found
    have latest := sound.latest id generation found
    rintro (unopened | ⟨other, latest', published⟩)
    · exact unopened generation latest.identity
    · rw [latest.unique latest', published] at unpublished
      cases unpublished
  · intro taken
    unfold Free at taken
    push Not at taken
    obtain ⟨⟨opened, identity⟩, unpublished⟩ := taken
    obtain ⟨generation, latest⟩ := exists_latest identity
    have unpublished : r.isPublished generation = false := by
      simpa using unpublished generation latest
    refine ⟨generation, ?_⟩
    rw [generation?_reap, sound.reserved id generation latest.identity unpublished]
    simp [Option.filter, unpublished]

theorem mem_liveEntities : id ∈ r.liveEntities ↔ r.isTaken id = true := by
  obtain ⟨text⟩ := id
  simp [liveEntities, isTaken, ← Dictionary.mem_keys_iff]

theorem pairwise_liveEntities (r : Roster) : r.liveEntities.Pairwise (·.text < ·.text) :=
  List.pairwise_map.mpr r.live.pairwise_keys

end Roster

end EntityEngine
