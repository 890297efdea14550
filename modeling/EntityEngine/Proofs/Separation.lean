import EntityEngine.Proofs.Errands
import EntityEngine.Samples.Counter

/-!
# Identities apart

Two runs with the same errands of an identity, whatever else is called, opened, awaited
or sent in between, give the same answers to whoever opens it, asks for its tombstone or
waits for a worker of it that is not published yet. Only who comes to wait for a worker
that is published may find that somebody else has looked at the registry first, and the
report dropped.
-/

namespace EntityEngine

namespace Crowd

variable {E : Entity} {c : Crowd E} {id : EntityId} {generation : Nat} {settings : Settings}
  {tracer : Tracer} {a : Affairs E}

/-- What a caller gets who waits for the worker of an identity from now on, if the wait is
over by the end of the later run. -/
def awaited (c : Crowd E) (id : EntityId) (later : List Happening) : Option (Option Report) :=
  match c.registry.roster.generation? id with
  | none => some none
  | some _ =>
    let index := c.waiters.length
    let ended := ((c.next (.beginWait id)).run later).next (.endWait index)
    ended.waiters[index]?.bind Waiter.answer

def Awaits (c : Crowd E) (index : Nat) (id : EntityId) (generation : Nat) : Prop :=
  ∃ answer, c.waiters[index]? = some ⟨id, generation, answer⟩ ∧
    ∀ report, answer = some report →
      c.registry.roster.status? generation = some (.published report)

theorem awaits_beginWait (found : c.registry.roster.generation? id = some generation) :
    (c.next (.beginWait id)).Awaits c.waiters.length id generation := by
  refine ⟨none, ?_, fun _ told => by cases told⟩
  simp only [next, beginWait, found]
  exact List.getElem?_concat_length

theorem map_collect? (r : Roster) (id : EntityId) (generation : Nat) :
    (r.collect? id generation).map Prod.fst = (r.status? generation).bind Status.published? := by
  unfold Roster.collect? Roster.status?
  obtain _ | ⟨_, _ | _ | _ | _⟩ := r.posts[generation]? <;> rfl

theorem waiters_endWait (c : Crowd E) (index : Nat) :
    (c.endWait index).waiters = c.waiters.modify index fun waiter =>
      { waiter with
        answer := waiter.answer.orElse fun _ =>
          (c.registry.roster.collect? waiter.entityId waiter.generation).map Prod.fst } := by
  unfold endWait
  cases found : c.waiters[index]? with
  | none => exact (List.modify_eq_self (List.getElem?_eq_none_iff.mp found)).symm
  | some waiter =>
      obtain ⟨id, generation, _ | report⟩ := waiter
      · dsimp only
        cases collected : c.registry.roster.collect? id generation with
        | none => exact (modify_of_found found (by rw [collected]; rfl)).symm
        | some ended =>
            rw [List.modify_eq_set_getElem?, found]
            simp [collected]
      · exact (modify_of_found found rfl).symm

theorem waiters_next {happening : Happening} (begins : ∀ other, happening ≠ .beginWait other)
    (ends : ∀ index, happening ≠ .endWait index) : (c.next happening).waiters = c.waiters := by
  cases happening with
  | beginWait other => exact (begins other rfl).elim
  | endWait index => exact (ends index rfl).elim
  | send =>
      simp only [next]
      split
      · split <;> rfl
      · rfl
  | receive =>
      simp only [next]
      split <;> rfl
  | cloneHandle =>
      simp only [next]
      split <;> rfl
  | _ => rfl

/-- A wait goes on until its worker is published, and comes to nothing else. -/
theorem Awaits.next {index : Nat} (awaits : c.Awaits index id generation)
    (orderly : c.registry.Orderly) (happening : Happening) :
    (c.next happening).Awaits index id generation := by
  obtain ⟨answer, held, told⟩ := awaits
  have told' (report : Option Report) (same : answer = some report) :=
    published_next orderly (told report same) happening
  cases happening with
  | beginWait other =>
      refine ⟨answer, ?_, told'⟩
      simp only [Crowd.next, beginWait]
      split
      · exact (List.getElem?_append_left (List.getElem?_eq_some_iff.mp held).1).trans held
      · exact held
  | endWait other =>
      by_cases same : other = index
      · subst same
        refine ⟨_, (congrArg (·[other]?) (waiters_endWait c other)).trans
          ((List.getElem?_modify_eq ..).trans (congrArg (Option.map _) held)), fun report got => ?_⟩
        cases answer with
        | some earlier => exact told' report got
        | none =>
            have published := (map_collect? c.registry.roster id generation).symm.trans got
            obtain ⟨status, here, told⟩ := Option.bind_eq_some_iff.mp published
            rw [Status.published?_eq_some_iff.mp told] at here
            exact published_next orderly here _
      · refine ⟨answer, ?_, told'⟩
        exact (congrArg (·[index]?) (waiters_endWait c other)).trans
          ((List.getElem?_modify_ne _ _ same).trans held)
  | _ => exact ⟨answer, (congrArg (·[index]?) (waiters_next (by simp) (by simp))).trans held, told'⟩

theorem Awaits.run {index : Nat} (awaits : c.Awaits index id generation)
    (orderly : c.registry.Orderly) (later : List Happening) :
    (c.run later).Awaits index id generation := by
  induction later generalizing c with
  | nil => exact awaits
  | cons happening later ih =>
      exact ih (awaits.next orderly happening) ((c.becomes_next happening).orderly orderly)

/-- Whoever goes on after a wait gets what the worker is published with. -/
theorem Awaits.answer {index : Nat} (awaits : c.Awaits index id generation) :
    (c.next (.endWait index)).waiters[index]?.bind Waiter.answer =
      (c.registry.roster.status? generation).bind Status.published? := by
  obtain ⟨answer, held, told⟩ := awaits
  rw [← map_collect? _ id]
  change (c.endWait index).waiters[index]?.bind _ = _
  rw [waiters_endWait, List.getElem?_modify_eq, held]
  cases answer with
  | some report =>
      rw [map_collect?, told report rfl]
      rfl
  | none => rfl

theorem errand?_congr {c' : Crowd E} (posts : c'.registry.roster.posts = c.registry.roster.posts)
    (shared : c'.registry.shared = c.registry.shared) (id : EntityId) (happening : Happening) :
    c'.errand? id happening = c.errand? id happening := by
  cases happening <;> simp only [errand?, concerns?, posts, shared]

theorem errand?_alike {c' : Crowd E} (alike : c.registry.Alike c'.registry) (id : EntityId)
    (happening : Happening) : c'.errand? id happening = c.errand? id happening := by
  have shared : c.registry.shared = c'.registry.shared :=
    @Registry.Alike.eq E _ _ _ (fun r => r.shared) (fun _ => rfl) alike
  exact errand?_congr alike.posts.symm shared.symm id happening

/-- However often the registry is looked at, the errands stay the same. -/
theorem errands_filter {c' : Crowd E} (alike : c.registry.Alike c'.registry) (id : EntityId)
    (happenings : List Happening) :
    c'.errands id (happenings.filter fun happening => !happening.looks) =
      c.errands id happenings := by
  induction happenings generalizing c c' with
  | nil => rfl
  | cons happening later ih =>
      cases looks : happening.looks with
      | true =>
          have idle : c.errand? id happening = none := by
            cases happening <;> first | rfl | cases looks
          rw [List.filter_cons_of_neg (by simp [looks]), errands, idle]
          exact ih ((alike_next_of_looks looks).symm.trans alike)
      | false =>
          rw [List.filter_cons_of_pos (by simp [looks]), errands, errands,
            errand?_alike alike, ih (alike_next alike happening)]

theorem errands_alike {c' : Crowd E} (alike : c.registry.Alike c'.registry) (id : EntityId)
    (happenings : List Happening) : c'.errands id happenings = c.errands id happenings :=
  (errands_filter (.refl _) id happenings).symm.trans (errands_filter alike id happenings)

theorem shared_openChannel (r : Registry E) (id : EntityId) :
    (r.openChannel id).registry.shared = r.shared := by
  have ways := r.opens id
  generalize r.openChannel id = account at ways ⊢
  cases ways <;> rfl

theorem posts_openChannel (r : Registry E) (id : EntityId) (generation : Nat) :
    (r.openChannel id).registry.roster.posts[generation]? = r.roster.posts[generation]? ∨
      (r.openChannel id).registry.roster.posts[generation]? = some ⟨id, .working⟩ ∧
        r.roster.posts[generation]? = none := by
  have ways := r.opens id
  generalize r.openChannel id = account at ways ⊢
  cases ways with
  | taken => exact .inl rfl
  | oversized => exact .inl rfl
  | opened =>
      by_cases last : generation = r.roster.nextGeneration
      · refine .inr ⟨((r.cleared id).roster.posts_enter ..).trans (if_pos last), ?_⟩
        exact List.getElem?_eq_none (Nat.le_of_eq last.symm)
      · exact .inl (((r.cleared id).roster.posts_enter ..).trans (if_neg last))

theorem errand?_openChannel {other : EntityId} (distinct : other ≠ id) (happening : Happening) :
    (c.next (.openChannel other)).errand? id happening = c.errand? id happening := by
  have posts := posts_openChannel c.registry other
  have concerns (generation : Nat) (errand : Errand E) :
      (c.next (.openChannel other)).concerns? id generation errand =
        c.concerns? id generation errand := by
    refine if_congr ?_ rfl rfl
    simp only [next]
    obtain same | ⟨new, absent⟩ := posts generation
    · rw [same]
    · simp [new, absent, distinct]
  cases happening with
  | work generation =>
      simp only [errand?, next, shared_openChannel]
      exact concerns generation _
  | record generation =>
      simp only [errand?, next]
      obtain same | ⟨new, absent⟩ := posts generation
      · rw [same]
      · rw [new, absent]
  | publish generation =>
      simp only [errand?, next]
      obtain same | ⟨new, absent⟩ := posts generation
      · rw [same]
      · rw [new, absent]
  | send | receive | cloneHandle | dropHandle | dropReplies => exact concerns _ _
  | _ => rfl

theorem exists_errand {c' : Crowd E} (orderly : c.registry.Orderly)
    (hasAffairs : c.registry.HasAffairs settings tracer id a)
    (hasAffairs' : c'.registry.HasAffairs settings tracer id a)
    (shared : c.registry.shared = c'.registry.shared) (happening : Happening) {errand : Errand E}
    (concerned : c.errand? id happening = some errand) :
    ∃ happening', c'.errand? id happening' = some errand := by
  have posted {generation : Nat} {status : Status}
      (found : c.registry.roster.posts[generation]? = some ⟨id, status⟩)
      (unpublished : status.published? = none) :
      ∃ other : Nat, c'.registry.roster.posts[other]? = some ⟨id, status⟩ :=
    (latest_of_unpublished orderly hasAffairs.shows found unpublished ▸
      hasAffairs'.shows.latest).exists_post
  have at_work {generation : Nat} {asked : Errand E} (concerned : Nat → Happening)
      (read : ∀ other, c'.errand? id (concerned other) = c'.concerns? id other asked)
      (here : c.concerns? id generation asked = some errand) :
      ∃ happening', c'.errand? id happening' = some errand := by
    unfold concerns? at here
    split at here
    next working =>
      obtain ⟨other, working'⟩ := posted working rfl
      exact ⟨concerned other, (read other).trans ((if_pos working').trans here)⟩
    · cases here
  cases happening with
  | openChannel other =>
      simp only [errand?] at concerned
      split at concerned
      · exact ⟨.openChannel id, (if_pos rfl).trans concerned⟩
      · cases concerned
  | handle other =>
      simp only [errand?] at concerned
      split at concerned
      · exact ⟨.handle id, (if_pos rfl).trans concerned⟩
      · cases concerned
  | send generation message => exact at_work (.send · message) (fun _ => rfl) concerned
  | receive generation => exact at_work .receive (fun _ => rfl) concerned
  | cloneHandle generation => exact at_work .cloneHandle (fun _ => rfl) concerned
  | dropHandle generation => exact at_work .dropHandle (fun _ => rfl) concerned
  | dropReplies generation => exact at_work .dropReplies (fun _ => rfl) concerned
  | work generation => exact at_work .work (fun _ => by rw [errand?, shared]) concerned
  | record generation =>
      simp only [errand?] at concerned
      split at concerned
      next named report found =>
        split at concerned
        next same =>
          subst same
          obtain ⟨other, found'⟩ := posted found rfl
          refine ⟨.record other, ?_⟩
          simp only [errand?, found', if_true]
          exact concerned
        · cases concerned
      · cases concerned
  | publish generation =>
      simp only [errand?] at concerned
      split at concerned
      next named report found =>
        split at concerned
        next same =>
          subst same
          obtain ⟨other, found'⟩ := posted found rfl
          refine ⟨.publish other, ?_⟩
          simp only [errand?, found', if_true]
          exact concerned
        · cases concerned
      · cases concerned
  | pass span => exact ⟨.pass span, concerned⟩
  | _ => cases concerned

theorem awaited_eq_fate (orderly : c.registry.Orderly) (attributed : c.registry.Attributed)
    (hasAffairs : c.registry.HasAffairs settings tracer id a)
    (found : c.registry.roster.generation? id = some generation) (later : List Happening) :
    c.awaited id later =
      a.dossier.fate settings id (a.deeds settings tracer id (c.errands id later)) := by
  have latest := orderly.sound.latest id generation found
  have same : (c.next (.beginWait id)).registry = c.registry := by
    simp only [next, beginWait, found]
  have awaits := awaits_beginWait found
  have alike : c.registry.Alike (c.next (.beginWait id)).registry := alike_next_of_looks rfl
  simp only [awaited, found]
  rw [← errands_alike alike id later]
  generalize c.next (.beginWait id) = waiting at *
  rw [← same] at orderly attributed hasAffairs latest
  rw [(awaits.run orderly later).answer, fate_run orderly attributed hasAffairs.shows latest,
    deeds_eq orderly attributed hasAffairs]

theorem generation?_eq_none_iff (orderly : c.registry.Orderly) {d : Dossier}
    (shows : c.registry.Shows settings id d)
    (unpublished : d.latest.bind Status.published? = none) :
    c.registry.roster.generation? id = none ↔ d.latest = none := by
  have latestStatus := shows.latest
  generalize d.latest = latest at unpublished latestStatus
  cases latestStatus with
  | unopened unopened =>
      refine iff_of_true (Option.eq_none_iff_forall_ne_some.mpr fun generation found => ?_) rfl
      exact unopened generation (orderly.sound.latest id generation found).identity
  | latest last here =>
      have held := orderly.sound.reserved id _ last.identity
        ((Roster.isPublished_of_status here).trans (congrArg Option.isSome unpublished))
      simp [held]

/-- Waits for a worker that is not published come to the same if the same becomes of it. -/
theorem awaited_eq {c' : Crowd E} (orderly : c.registry.Orderly)
    (attributed : c.registry.Attributed) (hasAffairs : c.registry.HasAffairs settings tracer id a)
    (orderly' : c'.registry.Orderly) (attributed' : c'.registry.Attributed)
    (hasAffairs' : c'.registry.HasAffairs settings tracer id a)
    (unpublished : a.dossier.latest.bind Status.published? = none) {later later' : List Happening}
    (same : c.errands id later = c'.errands id later') :
    c.awaited id later = c'.awaited id later' := by
  have entry := generation?_eq_none_iff orderly hasAffairs.shows unpublished
  have entry' := generation?_eq_none_iff orderly' hasAffairs'.shows unpublished
  cases found : c.registry.roster.generation? id with
  | none =>
      have found' := entry'.mpr (entry.mp found)
      simp only [awaited, found, found']
  | some generation =>
      have opened : a.dossier.latest ≠ none := fun unopened => by
        rw [entry.mpr unopened] at found
        cases found
      obtain ⟨generation', found'⟩ :=
        Option.ne_none_iff_exists'.mp fun absent => opened (entry'.mp absent)
      rw [awaited_eq_fate orderly attributed hasAffairs found,
        awaited_eq_fate orderly' attributed' hasAffairs' found', same]

/-- Who waits for a worker that is published gets its report, or finds its entry dropped. -/
theorem awaited_of_published (orderly : c.registry.Orderly)
    (attributed : c.registry.Attributed) (hasAffairs : c.registry.HasAffairs settings tracer id a)
    {report : Option Report} (published : a.dossier.latest.bind Status.published? = some report)
    (later : List Happening) :
    c.awaited id later = some report ∨ c.awaited id later = some none := by
  cases found : c.registry.roster.generation? id with
  | none => exact .inr (by simp only [awaited, found])
  | some generation =>
      refine .inl ((awaited_eq_fate orderly attributed hasAffairs found later).trans ?_)
      exact Dossier.fate_of_published published _

/-- Waits come to the same, unless the worker is published already. -/
theorem awaited_apart {c' : Crowd E} (orderly : c.registry.Orderly)
    (attributed : c.registry.Attributed) (hasAffairs : c.registry.HasAffairs settings tracer id a)
    (orderly' : c'.registry.Orderly) (attributed' : c'.registry.Attributed)
    (hasAffairs' : c'.registry.HasAffairs settings tracer id a) {later later' : List Happening}
    (same : c.errands id later = c'.errands id later') :
    c.awaited id later = c'.awaited id later' ∨
      ∃ report, c.registry.roster.LatestStatus id (some (.published report)) ∧
        c'.registry.roster.LatestStatus id (some (.published report)) ∧
        (c.awaited id later = some report ∨ c.awaited id later = some none) ∧
        (c'.awaited id later' = some report ∨ c'.awaited id later' = some none) := by
  cases published : a.dossier.latest.bind Status.published? with
  | none =>
      exact .inl (awaited_eq orderly attributed hasAffairs orderly' attributed' hasAffairs'
        published same)
  | some report =>
      obtain ⟨status, noted, told⟩ := Option.bind_eq_some_iff.mp published
      rw [Status.published?_eq_some_iff.mp told] at noted
      exact .inr ⟨report, noted ▸ hasAffairs.shows.latest, noted ▸ hasAffairs'.shows.latest,
        awaited_of_published orderly attributed hasAffairs published later,
        awaited_of_published orderly' attributed' hasAffairs' published later'⟩

/-- Two runs with the same errands of an identity answer alike whoever opens it, whoever asks
for its tombstone, and whoever waits for a worker of it that is not published yet; who waits
for one that is published gets its report or nothing; and with the same memory the one run
can go on with every errand that the other can go on with. Looking at the registry, waiting,
and opening other identities are no errands of the identity, and prevent none. -/
theorem run_apart (settings : Settings) (tracer : Tracer) (supply : Nat → Uuid) (id : EntityId) :
    let began : Crowd E := start settings tracer supply
    (∀ happenings happenings', began.errands id happenings = began.errands id happenings' →
      let c := began.run happenings
      let c' := began.run happenings'
      c.registry.grant id = c'.registry.grant id ∧
      (c.registry.isTombstoned id).result = (c'.registry.isTombstoned id).result ∧
      (c.registry.shared = c'.registry.shared → ∀ happening errand,
        c.errand? id happening = some errand →
        ∃ happening', c'.errand? id happening' = some errand) ∧
      ∀ later later', c.errands id later = c'.errands id later' →
        c.awaited id later = c'.awaited id later' ∨
        ∃ report, c.registry.roster.LatestStatus id (some (.published report)) ∧
          c'.registry.roster.LatestStatus id (some (.published report)) ∧
          (c.awaited id later = some report ∨ c.awaited id later = some none) ∧
          (c'.awaited id later' = some report ∨ c'.awaited id later' = some none)) ∧
    (∀ happenings, began.errands id (happenings.filter fun happening => !happening.looks) =
      began.errands id happenings) ∧
    ∀ happenings inserted,
      inserted.looks = true ∨ (∃ other, other ≠ id ∧ inserted = .openChannel other) →
      let c := began.run happenings
      c.errand? id inserted = none ∧
        ∀ happening, (c.next inserted).errand? id happening = c.errand? id happening := by
  intro began
  have orderly : began.registry.Orderly := Registry.orderly_create settings tracer supply
  have attributed : began.registry.Attributed :=
    Registry.attributed_create settings tracer supply
  have hasAffairs : began.registry.HasAffairs settings tracer id .blank :=
    ⟨Registry.shows_create settings tracer supply id, rfl, fun _ absent => (nomatch absent)⟩
  refine ⟨?_, fun happenings => ?_, ?_⟩
  · intro happenings happenings' same c c'
    have hasAffairs_now := hasAffairs_run orderly attributed hasAffairs happenings
    have hasAffairs_now' := hasAffairs_run orderly attributed hasAffairs happenings'
    rw [← same] at hasAffairs_now'
    have orderly_now : c.registry.Orderly := orderly_run orderly happenings
    have orderly_now' : c'.registry.Orderly := orderly_run orderly happenings'
    have attributed_now : c.registry.Attributed := attributed_run orderly attributed happenings
    have attributed_now' : c'.registry.Attributed := attributed_run orderly attributed happenings'
    generalize (began.errands id happenings).foldl _ _ = a at hasAffairs_now hasAffairs_now'
    refine ⟨?_, ?_, fun shared happening errand => ?_, fun later later' rest => ?_⟩
    · rw [hasAffairs_now.shows.grant_eq orderly_now hasAffairs_now.traced,
        hasAffairs_now'.shows.grant_eq orderly_now' hasAffairs_now'.traced]
    · rw [Registry.isTombstoned_eq, Registry.isTombstoned_eq, hasAffairs_now.shows.tombstone,
        hasAffairs_now'.shows.tombstone]
    · exact exists_errand orderly_now hasAffairs_now hasAffairs_now' shared happening
    · exact awaited_apart orderly_now attributed_now hasAffairs_now orderly_now' attributed_now'
        hasAffairs_now' rest
  · exact errands_filter (.refl _) id happenings
  · rintro happenings inserted (looks | ⟨other, distinct, rfl⟩)
    · refine ⟨?_, errand?_alike (alike_next_of_looks looks) id⟩
      cases inserted <;> first | rfl | cases looks
    · exact ⟨if_neg distinct, errand?_openChannel distinct⟩

open Samples.Counter in
/-- A worker of another identity comes first, so that the one of the identity has another
number, and the registry is looked at in between. -/
theorem run_apart_renumbered :
    let began : Crowd entity := start .default .silent Uuid.ofNat
    let happenings := [.openChannel ⟨"c"⟩, .dropHandle 0, .work 0, .work 0, .record 0, .publish 0]
    let happenings' := [.openChannel ⟨"d"⟩, .openChannel ⟨"c"⟩, .dropHandle 1, .liveEntities,
      .work 1, .work 1, .record 1, .publish 1]
    began.errands ⟨"c"⟩ happenings = began.errands ⟨"c"⟩ happenings' ∧
      (began.run happenings).registry.grant ⟨"c"⟩ =
        (began.run happenings').registry.grant ⟨"c"⟩ := by
  have plain : (start .default .silent Uuid.ofNat : Crowd entity).errands ⟨"c"⟩
      [.openChannel ⟨"c"⟩, .dropHandle 0, .work 0, .work 0, .record 0, .publish 0] =
        [.opens, .asks .dropHandle, .works (entity.share Uuid.ofNat),
          .works (entity.share Uuid.ofNat), .records, .publishes] := rfl
  have among : (start .default .silent Uuid.ofNat : Crowd entity).errands ⟨"c"⟩
      [.openChannel ⟨"d"⟩, .openChannel ⟨"c"⟩, .dropHandle 1, .liveEntities, .work 1, .work 1,
        .record 1, .publish 1] =
        [.opens, .asks .dropHandle, .works (entity.share Uuid.ofNat),
          .works (entity.share Uuid.ofNat), .records, .publishes] := rfl
  have same := plain.trans among.symm
  exact ⟨same, ((run_apart .default .silent Uuid.ofNat ⟨"c"⟩).1 _ _ same).1⟩

/-- Whoever looks at the registry after a worker is published makes it drop the report, and a
wait that comes later finds nothing. -/
theorem report_dropped :
    let c : Crowd Samples.Counter.entity := (start .default .silent Uuid.ofNat).run
      [.openChannel ⟨"c"⟩, .dropHandle 0, .work 0, .work 0, .record 0, .publish 0]
    (c.registry.waitStopped ⟨"c"⟩).2 = .reported (some ⟨.inboundClosed, some ⟨"c"⟩, false⟩) ∧
    ∀ inserted ∈ [.liveEntities, .isTombstoned ⟨"d"⟩, .openChannel ⟨"d"⟩],
      ((c.next inserted).registry.waitStopped ⟨"c"⟩).2 = .reported none := by
  intro c
  refine ⟨rfl, fun inserted member => ?_⟩
  simp only [List.mem_cons, List.not_mem_nil, or_false] at member
  obtain rfl | rfl | rfl := member <;> rfl

end Crowd

end EntityEngine
