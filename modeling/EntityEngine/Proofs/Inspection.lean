import EntityEngine.Proofs.Tombstones

/-!
# Looking at a registry

Whoever asks which entities are live, asks for a tombstone or waits for a worker makes
the registry drop what is published or expired. Nothing but another such wait can tell
whether that has happened already, because every other operation drops it first. So a
run comes to the same, up to what the next reaping drops, however often the registry is
looked at and waited for in between.
-/

namespace EntityEngine

namespace Dictionary

variable {α : Type} {d d' : Dictionary α}

theorem mem_entries_iff {key : String} {value : α} :
    (key, value) ∈ d.entries ↔ d.get? key = some value := by
  obtain ⟨entries, increasing⟩ := d
  simp only [get?]
  induction entries with
  | nil => simp
  | cons head rest ih =>
      obtain ⟨first, value'⟩ := head
      obtain ⟨above, increasing⟩ := List.pairwise_cons.mp increasing
      by_cases same : first = key
      · subst same
        have absent : (first, value) ∉ rest := fun member =>
          String.lt_irrefl first (above _ member)
        simp [absent, eq_comm]
      · simp [same, Ne.symm same, ih increasing]

/-- A dictionary is known by its look-ups. -/
theorem ext_get? (same : ∀ key, d.get? key = d'.get? key) : d = d' := by
  have members (entry : String × α) : entry ∈ d.entries ↔ entry ∈ d'.entries := by
    rw [mem_entries_iff, mem_entries_iff, same]
  have nodup (d : Dictionary α) : d.entries.Nodup := by
    refine List.Pairwise.imp ?_ d.increasing
    rintro a b below rfl
    exact String.lt_irrefl _ below
  have perm := (List.perm_ext_iff_of_nodup (nodup d) (nodup d')).mpr members
  have entries : d.entries = d'.entries :=
    perm.eq_of_pairwise (fun _ _ _ _ below above => (String.lt_asymm below above).elim)
      d.increasing d'.increasing
  obtain ⟨_, _⟩ := d
  obtain ⟨_, _⟩ := d'
  cases entries
  rfl

end Dictionary

namespace Roster

variable {r r' : Roster} {now : Instant} {generation : Nat}

/-- Rosters with the same workers come to the same by a reaping if they agree on the entries
of workers that are not published and on the tombstones that stand. -/
theorem reap_eq_reap (entityType : r.entityType = r'.entityType)
    (retention : r.retention = r'.retention) (posts : r.posts = r'.posts)
    (entries : ∀ id generation, r.isPublished generation = false →
      (r.generation? id = some generation ↔ r'.generation? id = some generation))
    (tombstones : ∀ key since, r.stands now since = true →
      (r.tombstones.get? key = some since ↔ r'.tombstones.get? key = some since)) :
    (r.reap now).1 = (r'.reap now).1 := by
  have published : r'.isPublished = r.isPublished := by
    funext generation
    rw [isPublished, isPublished, posts]
  have stands : r'.stands now = r.stands now := by
    funext since
    rw [Roster.stands, Roster.stands, retention]
  have live : (r.reap now).1.live = (r'.reap now).1.live := by
    refine Dictionary.ext_get? fun key => Option.ext fun generation => ?_
    have same : r.isPublished generation = false →
        (r.live.get? key = some generation ↔ r'.live.get? key = some generation) :=
      entries ⟨key⟩ generation
    simp only [reap, Dictionary.get?_filter, Option.filter_eq_some_iff, published]
    cases h : r.isPublished generation with
    | true => simp
    | false => simpa using same h
  have standing : (r.reap now).1.tombstones = (r'.reap now).1.tombstones := by
    refine Dictionary.ext_get? fun key => Option.ext fun since => ?_
    have same := tombstones key since
    simp only [get?_reap, Option.filter_eq_some_iff, stands]
    cases h : r.stands now since with
    | true => simpa using same h
    | false => simp
  obtain ⟨_, _, _, _, _⟩ := r
  obtain ⟨_, _, _, _, _⟩ := r'
  cases entityType
  cases retention
  cases posts
  exact congrArg₂ (Roster.mk _ _ _) live standing

theorem generation?_reap_iff {id : EntityId} (unpublished : r.isPublished generation = false) :
    (r.reap now).1.generation? id = some generation ↔ r.generation? id = some generation := by
  rw [generation?_reap, Option.filter_eq_some_iff]
  simp [unpublished]

theorem get?_reap_iff {key : String} {since : Instant} (stands : r.stands now since = true) :
    (r.reap now).1.tombstones.get? key = some since ↔ r.tombstones.get? key = some since := by
  rw [get?_reap, Option.filter_eq_some_iff]
  simp [stands]

theorem reap_reap (r : Roster) (now : Instant) : ((r.reap now).1.reap now).1 = (r.reap now).1 :=
  reap_eq_reap rfl rfl rfl (fun _ _ unpublished => generation?_reap_iff unpublished)
    fun _ _ stands => get?_reap_iff stands

/-- A status of a worker that is not published may be set before the reaping or after. -/
theorem generation?_setStatus_reap (now : Instant) (status : Status)
    (unpublished : r.isPublished generation = false) {other : Nat} (id : EntityId)
    (after : (r.setStatus generation status).isPublished other = false) :
    (r.setStatus generation status).generation? id = some other ↔
      ((r.reap now).1.setStatus generation status).generation? id = some other := by
  have before : r.isPublished other = false := by
    by_contra published
    rw [Bool.not_eq_false] at published
    rw [(follows_setStatus unpublished status).published other published] at after
    cases after
  exact (@generation?_reap_iff r now other id before).symm

theorem reap_setStatus (r : Roster) (now : Instant) (status : Status)
    (unpublished : r.isPublished generation = false) :
    ((r.setStatus generation status).reap now).1 =
      (((r.reap now).1.setStatus generation status).reap now).1 :=
  reap_eq_reap rfl rfl rfl
    (fun id _ after => generation?_setStatus_reap now status unpublished id after)
    fun _ _ stands => (get?_reap_iff stands).symm

theorem reap_finish (r : Roster) (now : Instant) (generation : Nat) (report : Option Report) :
    ((r.finish generation report).reap now).1 =
      (((r.reap now).1.finish generation report).reap now).1 := by
  unfold finish
  simp only [show (r.reap now).1.posts = r.posts from rfl]
  split
  next post => exact r.reap_setStatus now _ (by rw [isPublished, post])
  · exact (r.reap_reap now).symm

theorem reap_publish (r : Roster) (now : Instant) (generation : Nat) :
    ((r.publish generation).reap now).1 = (((r.reap now).1.publish generation).reap now).1 := by
  unfold publish
  simp only [show (r.reap now).1.posts = r.posts from rfl]
  split
  next post => exact r.reap_setStatus now _ (by rw [isPublished, post])
  · exact (r.reap_reap now).symm

theorem reap_record (r : Roster) (now : Instant) (generation : Nat) :
    ((r.record now generation).1.reap now).1 =
      (((r.reap now).1.record now generation).1.reap now).1 := by
  unfold record
  simp only [show (r.reap now).1.posts = r.posts from rfl]
  split
  next report post =>
    have unpublished : r.isPublished generation = false := by rw [isPublished, post]
    cases deletedBy report with
    | none => exact r.reap_setStatus now _ unpublished
    | some id =>
        refine reap_eq_reap rfl rfl rfl
          (fun id _ after => generation?_setStatus_reap now _ unpublished id after) ?_
        intro key since stands
        simp only [Dictionary.get?_insert]
        split
        · rfl
        · exact (@get?_reap_iff r now key since stands).symm
  · exact (r.reap_reap now).symm

/-- What has expired stays expired. -/
theorem reap_later (r : Roster) {now later : Instant} (le : now ≤ later) :
    (r.reap later).1 = ((r.reap now).1.reap later).1 := by
  refine reap_eq_reap rfl rfl rfl
    (fun _ _ unpublished => (generation?_reap_iff unpublished).symm) ?_
  intro key since stands
  refine (get?_reap_iff ?_).symm
  rw [stands_iff] at stands ⊢
  exact Nat.lt_of_le_of_lt (Nat.sub_le_sub_right le since) stands

theorem reap_collect? {id : EntityId} {report : Option Report} (now : Instant)
    (collected : r.collect? id generation = some (report, r')) :
    (r.reap now).1 = (r'.reap now).1 := by
  unfold collect? at collected
  split at collected
  next named stopped post =>
    cases collected
    have published : r.isPublished generation = true := by rw [isPublished, post]
    split
    next held =>
      refine reap_eq_reap rfl rfl rfl ?_ fun _ _ _ => Iff.rfl
      intro other g unpublished
      rw [generation?_erase]
      split
      next same =>
        subst same
        rw [held]
        simp only [Option.some.injEq, reduceCtorEq, iff_false]
        rintro rfl
        rw [published] at unpublished
        cases unpublished
      · rfl
    · rfl
  · cases collected

end Roster

namespace Registry

variable {E : Entity} {r r' r'' : Registry E} {id : EntityId} {generation : Nat}

/-- The registries are the same but for what the next reaping drops. -/
def Alike (r r' : Registry E) : Prop := r.reap.1 = r'.reap.1

theorem Alike.refl (r : Registry E) : r.Alike r := rfl

theorem Alike.symm (h : r.Alike r') : r'.Alike r := Eq.symm h

theorem Alike.trans (h : r.Alike r') (h' : r'.Alike r'') : r.Alike r'' := Eq.trans h h'

/-- What no reaping touches is the same. -/
theorem Alike.eq {α : Type} {f : Registry E → α} (untouched : ∀ r, f r.reap.1 = f r)
    (h : r.Alike r') : f r = f r' :=
  (untouched r).symm.trans ((congrArg f h).trans (untouched r'))

theorem Alike.workers (h : r.Alike r') : r.workers = r'.workers := h.eq fun _ => rfl

theorem Alike.posts (h : r.Alike r') : r.roster.posts = r'.roster.posts :=
  @Alike.eq E r r' _ (fun r => r.roster.posts) (fun _ => rfl) h

theorem Alike.modifyWorker (h : r.Alike r') (generation : Nat) (f : Worker E → Worker E) :
    (r.modifyWorker generation f).Alike (r'.modifyWorker generation f) :=
  congrArg (fun r : Registry E => r.modifyWorker generation f) h

/-- Another roster for the registry that comes to the same by the next reaping. -/
theorem alike_of_reap {roster : Roster}
    (same : (r.roster.reap r.now).1 = (roster.reap r.now).1) :
    r.Alike { r with roster } :=
  congrArg (fun roster => ({ r with roster } : Registry E)) same

theorem reap_reap (r : Registry E) : r.reap.1.reap.1 = r.reap.1 :=
  congrArg (fun roster => ({ r with roster } : Registry E)) (r.roster.reap_reap r.now)

theorem alike_reap (r : Registry E) : r.Alike r.reap.1 := r.reap_reap.symm

/-- An operation that can be done after a reaping as well as before keeps registries alike. -/
theorem Alike.map (h : r.Alike r') {f : Registry E → Registry E}
    (commutes : ∀ r, (f r).Alike (f r.reap.1)) : (f r).Alike (f r') :=
  (commutes r).trans ((congrArg (fun r => (f r).reap.1) h).trans (commutes r').symm)

/-- Whoever looks at a registry reaps it first. -/
theorem Alike.openChannel (h : r.Alike r') (id : EntityId) :
    (r.openChannel id).registry = (r'.openChannel id).registry ∧
      (r.openChannel id).result = (r'.openChannel id).result := by
  unfold Alike at h
  unfold Registry.openChannel
  generalize r.reap = reaped at *
  generalize r'.reap = reaped' at *
  obtain ⟨kept, notices⟩ := reaped
  obtain ⟨kept', notices'⟩ := reaped'
  cases h
  dsimp only
  split
  · exact ⟨rfl, rfl⟩
  · split <;> exact ⟨rfl, rfl⟩

theorem Alike.handle (h : r.Alike r') (id : EntityId) :
    (r.handle id).registry = (r'.handle id).registry ∧
      (r.handle id).result = (r'.handle id).result := by
  unfold Alike at h
  unfold Registry.handle
  generalize r.reap = reaped at *
  generalize r'.reap = reaped' at *
  obtain ⟨kept, notices⟩ := reaped
  obtain ⟨kept', notices'⟩ := reaped'
  cases h
  dsimp only
  split <;> exact ⟨rfl, rfl⟩

theorem alike_work (r : Registry E) (generation : Nat) :
    (r.work generation).Alike (r.reap.1.work generation) := by
  unfold work
  simp only [show r.reap.1.workers = r.workers from rfl, show r.reap.1.now = r.now from rfl,
    show r.reap.1.shared = r.shared from rfl]
  split
  · exact r.alike_reap
  · split
    · exact r.alike_reap
    next w found stride step =>
      unfold stepped
      split
      · exact congrArg (fun roster => ({ r with
            roster, workers := r.workers.set generation stride.worker,
            shared := stride.shared } : Registry E)) (r.roster.reap_finish r.now generation _)
      · exact congrArg (fun roster => ({ r with
            roster, workers := r.workers.set generation stride.worker,
            shared := stride.shared } : Registry E)) (r.roster.reap_reap r.now).symm

theorem alike_record (r : Registry E) (generation : Nat) :
    (r.record generation).Alike (r.reap.1.record generation) :=
  congrArg (fun roster => ({ r with roster } : Registry E)) (r.roster.reap_record r.now generation)

theorem alike_publish (r : Registry E) (generation : Nat) :
    (r.publish generation).Alike (r.reap.1.publish generation) :=
  congrArg (fun roster => ({ r with roster } : Registry E)) (r.roster.reap_publish r.now generation)

theorem alike_advance (r : Registry E) (span : Nat) :
    (r.advance span).Alike (r.reap.1.advance span) :=
  congrArg (fun roster => ({ r with roster, now := r.now + span } : Registry E))
    (r.roster.reap_later (Nat.le_add_right r.now span))

end Registry

/-- Somebody looks at the registry or waits for a worker. -/
def Happening.looks : Happening → Bool
  | .liveEntities | .isTombstoned _ | .beginWait _ | .endWait _ => true
  | _ => false

namespace Crowd

variable {E : Entity} {c c' : Crowd E}

theorem alike_beginWait (c : Crowd E) (id : EntityId) :
    c.registry.Alike (c.beginWait id).registry := by
  unfold beginWait
  split <;> exact .refl _

theorem alike_endWait (c : Crowd E) (index : Nat) :
    c.registry.Alike (c.endWait index).registry := by
  unfold endWait
  split
  · split
    next collected => exact Registry.alike_of_reap (Roster.reap_collect? _ collected)
    · exact .refl _
  · exact .refl _

/-- Looking changes nothing but what the next reaping changes anyway. -/
theorem alike_next_of_looks {happening : Happening} (looks : happening.looks = true) :
    c.registry.Alike (c.next happening).registry := by
  cases happening with
  | liveEntities => exact c.registry.alike_reap
  | isTombstoned id => exact c.registry.alike_reap
  | beginWait id => exact c.alike_beginWait id
  | endWait index => exact c.alike_endWait index
  | _ => cases looks

theorem registry_send (h : c.registry.Alike c'.registry) (generation : Nat) (message : Inbound) :
    (c.next (.send generation message)).registry.Alike
      (c'.next (.send generation message)).registry := by
  have held : c.registry.isHeld generation = c'.registry.isHeld generation := by
    rw [Registry.isHeld, Registry.isHeld, h.workers]
  simp only [next, held]
  split
  · unfold Registry.send
    rw [h.workers]
    cases c'.registry.workers[generation]? with
    | none => exact h
    | some w =>
        simp only
        cases w.send message with
        | error refusal => exact h
        | ok w' => exact h.modifyWorker generation fun _ => w'
  · exact h

theorem registry_receive (h : c.registry.Alike c'.registry) (generation : Nat) :
    (c.next (.receive generation)).registry.Alike (c'.next (.receive generation)).registry := by
  simp only [next, Registry.receive, h.workers]
  cases c'.registry.workers[generation]? with
  | none => exact h
  | some w =>
      simp only
      cases w.receive with
      | message out w' => exact h.modifyWorker generation fun _ => w'
      | pending => exact h
      | closed => exact h

/-- The same happening keeps registries alike, whoever waits for their workers. -/
theorem alike_next (h : c.registry.Alike c'.registry) (happening : Happening) :
    (c.next happening).registry.Alike (c'.next happening).registry := by
  by_cases looks : happening.looks = true
  · exact (alike_next_of_looks looks).symm.trans (h.trans (alike_next_of_looks looks))
  cases happening with
  | openChannel id => exact congrArg (fun r => r.reap.1) (h.openChannel id).1
  | handle id => exact congrArg (fun r => r.reap.1) (h.handle id).1
  | send generation message => exact registry_send h generation message
  | receive generation => exact registry_receive h generation
  | cloneHandle generation =>
      have held : c.registry.isHeld generation = c'.registry.isHeld generation := by
        rw [Registry.isHeld, Registry.isHeld, h.workers]
      simp only [next, held]
      split
      · exact h.modifyWorker generation _
      · exact h
  | dropHandle generation => exact h.modifyWorker generation _
  | dropReplies generation => exact h.modifyWorker generation _
  | work generation => exact h.map fun r => r.alike_work generation
  | record generation => exact h.map fun r => r.alike_record generation
  | publish generation => exact h.map fun r => r.alike_publish generation
  | pass span => exact h.map fun r => r.alike_advance span
  | _ => exact (looks rfl).elim

end Crowd

end EntityEngine
