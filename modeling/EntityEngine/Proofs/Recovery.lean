import EntityEngine.Proofs.Discourse
import EntityEngine.Proofs.Journal
import EntityEngine.Proofs.Steadiness

/-!
# Recovery

A host that opens a new channel for an entity sends what it has kept from the old one:
one of the snapshots it was given, or none, and the events after it. The main statement
is that the new session then answers like the old one. The old session has folded the
events as its handlers persisted them, with snapshots taken in between; the new one
decodes and applies them one by one. What ties the two is that every snapshot a host
was ever given since the last deletion is the fold of exactly its first events.
-/

namespace EntityEngine

/-- The codec reads back what it writes for this value. -/
def Codec.LawfulAt {α : Type} (codec : Codec α) (a : α) : Prop :=
  ∀ json, codec.encode a = .ok json → codec.decode json = .ok a

theorem Samples.Counter.readValue_value (n : Int64) :
    Counter.readValue (.named [("value", .int n.toInt)]) = .ok n :=
  Fields.decode_of_cell? rfl (Json.decodeInt64_int n)

theorem Samples.Counter.lawfulAt_state (c : Counter) : Counter.entity.states.LawfulAt c := by
  rintro json ⟨⟩
  exact congrArg (Except.map Counter.mk)
    (Json.decodeRecord_object (Counter.readValue_value c.value))

theorem Samples.Counter.lawfulAt_event (e : CounterEvent) : Counter.entity.events.LawfulAt e := by
  rintro json ⟨⟩
  cases e with
  | reset => rfl
  | increased value =>
      let data : Json := .ofMembers [("value", .int value.toInt)]
      have sorted : (CounterEvent.increased value).toJson =
          .object [("data", data), ("type", .string "ValueIncreased")] := by
        have ordered : "data" < "type" := by decide
        simp only [data, CounterEvent.toJson, Json.ofMembers, List.foldl, insertEntry,
          if_pos ordered]
      have read : CounterEvent.decodeData "ValueIncreased" data = .ok (.increased value) := by
        unfold CounterEvent.decodeData
        rw [if_pos rfl]
        exact congrArg (fun read => (read.mapError Fault.error).map CounterEvent.increased)
          (Counter.readValue_value value)
      change CounterEvent.decode (CounterEvent.increased value).toJson = _
      rw [sorted]
      exact read

structure HostLog where
  events : List EventRecord
  snapshots : List Snapshot

namespace HostLog

def empty : HostLog := ⟨[], []⟩

/-- Keep what an exchange brings: an event that was taken in, or what an answer carries. -/
def hear (log : HostLog) (x : Exchange) : HostLog :=
  match x.turn.message, x.ending with
  | .event record, .quiet => { log with events := log.events ++ [record] }
  | _, .answered (.reply reply) =>
    if reply.deleteAfter then empty
    else ⟨log.events ++ reply.emittedEvents, log.snapshots ++ reply.snapshot.toList⟩
  | _, .answered (.snapshotReply reply) =>
    { log with snapshots := log.snapshots ++ [reply.snapshot] }
  | _, _ => log

def ofExchanges (exchanges : List Exchange) : HostLog := exchanges.foldl hear empty

/-- The events that a snapshot does not cover. -/
def after (log : HostLog) (k : SequenceNumber) : List EventRecord :=
  log.events.filter fun record => k < record.sequenceNumber

end HostLog

theorem Numbered.lt {last : SequenceNumber} {records : List EventRecord}
    (h : Numbered last records) (bounded : last.toNat + records.length < 2 ^ 64) :
    ∀ record ∈ records, last < record.sequenceNumber := by
  intro record member
  have number : record.sequenceNumber.toNat ∈ List.range' (last.toNat + 1) records.length := by
    rw [← h.map_toNat bounded]
    exact List.mem_map_of_mem member
  rw [UInt64.lt_iff_toNat_lt]
  have := List.mem_range'_1.mp number
  omega

/-- The records with a number beyond the first `n` are those after the first `n`. -/
theorem Numbered.filter_eq_drop {last : SequenceNumber} {records : List EventRecord}
    (h : Numbered last records) (bounded : last.toNat + records.length < 2 ^ 64) (n : Nat)
    (inside : n ≤ records.length) :
    records.filter (fun record => last + UInt64.ofNat n < record.sequenceNumber) =
      records.drop n := by
  induction n generalizing last records with
  | zero =>
      simp only [List.drop_zero, List.filter_eq_self, decide_eq_true_eq]
      intro record member
      simpa using h.lt bounded record member
  | succ n ih =>
      cases records with
      | nil => rfl
      | cons record rest =>
          obtain ⟨head, tail⟩ := h
          simp only [List.length_cons] at bounded inside
          have next := @toNat_add_one last (by omega)
          have covered : ¬ last + UInt64.ofNat (n + 1) < record.sequenceNumber := by
            rw [head, UInt64.lt_iff_toNat_lt, toNat_add_ofNat (by omega), next]
            omega
          rw [List.filter_cons_of_neg (by simpa using covered), add_ofNat_succ]
          exact ih tail (by omega) (by omega)

/-- What the codec reads back can be replayed, and replaying folds it. -/
theorem replaysAll_of_writes {E : Entity} {life : Incarnation E.State} {state : E.State}
    {records : List EventRecord} {events : List E.Event}
    (numbered : Numbered life.position.current records)
    (written : List.Forall₂ Journal.Writes records events)
    (lawful : ∀ event ∈ events, E.events.LawfulAt event)
    (folded : events.foldlM E.apply life.state = .ok state) :
    ∃ last, ReplaysAll life records last ∧ last.state = state ∧
      last.position.current = life.position.current + UInt64.ofNat records.length := by
  induction written generalizing life with
  | nil =>
      cases folded
      exact ⟨life, .nil life, rfl, (UInt64.add_zero _).symm⟩
  | @cons record event records events writes _ ih =>
      obtain ⟨first, others⟩ := List.forall_mem_cons.mp lawful
      obtain ⟨head, tail⟩ := numbered
      rw [List.foldlM_cons, bind_eq_ok] at folded
      obtain ⟨middle, applies, folded⟩ := folded
      have decodes : E.events.decode record.payload = .ok event := by
        rcases writes with decodes | encodes
        · exact decodes
        · exact first _ encodes
      have step := Replays.step head decodes applies
      rw [← head] at tail
      obtain ⟨last, replays, same, current⟩ :=
        @ih ⟨middle, { life.position with current := record.sequenceNumber }⟩ tail others folded
      refine ⟨last, .cons step replays, same, ?_⟩
      rw [current, List.length_cons, add_ofNat_succ]
      exact congrArg (· + UInt64.ofNat records.length) head

namespace Journal

variable {E : Entity} {j : Journal E} {life : Incarnation E.State}

/-- The snapshot shows the fold of the first events of the journal. -/
def Recalls (j : Journal E) (snapshot : Snapshot) : Prop :=
  ∃ n state, n ≤ j.records.length ∧
    snapshot.sequenceNumber = j.number + UInt64.ofNat n ∧
    E.states.decode snapshot.state = .ok state ∧
    (j.events.take n).foldlM E.apply j.state = .ok state

theorem Recalls.append (h : j.LeadsTo life) {snapshot : Snapshot} (recalls : j.Recalls snapshot)
    (records : List EventRecord) (events : List E.Event) :
    ({ j with records := j.records ++ records, events := j.events ++ events } :
      Journal E).Recalls snapshot := by
  obtain ⟨n, state, inside, number, decodes, folded⟩ := recalls
  have inside' : n ≤ j.events.length := by rwa [← h.written.length_eq]
  refine ⟨n, state, ?_, number, decodes, ?_⟩
  · rw [List.length_append]
    omega
  · rw [List.take_append_of_le_length inside']
    exact folded

theorem LeadsTo.recalls (h : j.LeadsTo life) (lawful : E.states.LawfulAt life.state)
    {snapshot : Snapshot} (number : snapshot.sequenceNumber = life.position.current)
    (encodes : E.states.encode life.state = .ok snapshot.state) : j.Recalls snapshot := by
  refine ⟨j.records.length, life.state, Nat.le_refl _, number.trans h.current, lawful _ encodes, ?_⟩
  rw [h.written.length_eq, List.take_length]
  exact h.folded

/-- From the fold of the first events the others lead on to the life of the journal. -/
theorem LeadsTo.replaysAll_drop (h : j.LeadsTo life)
    (lawful : ∀ event ∈ j.events, E.events.LawfulAt event) (first : Incarnation E.State)
    {n : Nat} (inside : n ≤ j.records.length)
    (number : first.position.current = j.number + UInt64.ofNat n)
    (folded : (j.events.take n).foldlM E.apply j.state = .ok first.state) :
    ∃ last, ReplaysAll first (j.records.drop n) last ∧ last.state = life.state ∧
      last.position.current = life.position.current := by
  have numbered : Numbered first.position.current (j.records.drop n) := by
    have parts := h.numbered
    rw [← List.take_append_drop n j.records, numbered_append, List.length_take_of_le inside,
      ← number] at parts
    exact parts.2
  have rest : (j.events.drop n).foldlM E.apply first.state = .ok life.state := by
    have whole := h.folded
    rw [← List.take_append_drop n j.events, List.foldlM_append, folded] at whole
    exact whole
  obtain ⟨last, replays, state, current⟩ := replaysAll_of_writes numbered
    (List.forall₂_drop n h.written) (fun event member => lawful event (List.mem_of_mem_drop member))
    rest
  refine ⟨last, replays, state, ?_⟩
  rw [current, number, List.length_drop, UInt64.add_assoc, ← UInt64.ofNat_add,
    Nat.add_sub_cancel' inside]
  exact h.current.symm

end Journal

/-- The host log and the journal of a channel that was started without a snapshot. -/
structure Kept {E : Entity} (blank : E.State) (j : Journal E) (log : HostLog)
    (life : Incarnation E.State) : Prop where
  number : j.number = 0
  state : j.state = blank
  leads : j.LeadsTo life
  records : log.events = j.records
  recalls : ∀ snapshot ∈ log.snapshots, j.Recalls snapshot

namespace Kept

variable {E : Entity} {blank : E.State} {j : Journal E} {log : HostLog}
variable {life next : Incarnation E.State}

theorem fresh (blank : E.State) : Kept blank (.fresh blank) .empty (.fresh blank) where
  number := rfl
  state := rfl
  leads := Journal.leadsTo_fresh blank
  records := rfl
  recalls _ member := (List.not_mem_nil member).elim

theorem append (h : Kept blank j log life) {records : List EventRecord} {events : List E.Event}
    (leads : ({ j with records := j.records ++ records, events := j.events ++ events } :
      Journal E).LeadsTo next) (lawful : E.states.LawfulAt next.state) (snapshot : Option Snapshot)
    (pictured : ∀ p, snapshot = some p → p.sequenceNumber = next.position.current ∧
      E.states.encode next.state = .ok p.state) :
    Kept blank { j with records := j.records ++ records, events := j.events ++ events }
      ⟨log.events ++ records, log.snapshots ++ snapshot.toList⟩ next where
  number := h.number
  state := h.state
  leads := leads
  records := congrArg (· ++ records) h.records
  recalls := by
    intro p member
    rcases List.mem_append.mp member with earlier | new
    · exact (h.recalls p earlier).append h.leads records events
    · obtain ⟨number, encodes⟩ := pictured p (Option.mem_toList.mp new)
      exact leads.recalls lawful number encodes

theorem portrayed (h : Kept blank j log life) (lawful : E.states.LawfulAt life.state) {json : Json}
    (encodes : E.states.encode life.state = .ok json) :
    Kept blank j { log with snapshots := log.snapshots ++ [⟨life.position.current, json⟩] } life :=
  { h with
    recalls := by
      intro p member
      rcases List.mem_append.mp member with earlier | new
      · exact h.recalls p earlier
      · obtain rfl := List.mem_singleton.mp new
        exact h.leads.recalls lawful rfl encodes }

/-- What is kept is enough to bring a new session to the same state and number. -/
theorem prelude (h : Kept blank j log life)
    (lawful : ∀ event ∈ j.events, E.events.LawfulAt event)
    (bounded : log.events.length < 2 ^ 64) {o : Options} (heeding : o.ignoreInitSnapshot = false)
    {id : EntityId} (admits : o.Admits id) {snapshot : Option Snapshot}
    (known : ∀ p, snapshot = some p → p ∈ log.snapshots) :
    ∃ last, Prelude o blank id (.init ⟨id, snapshot⟩ ::
        (log.after (snapshot.elim 0 Snapshot.sequenceNumber)).map .event) last ∧
      last.state = life.state ∧ last.position.current = life.position.current := by
  have rest (n : Nat) (inside : n ≤ j.records.length) :
      log.after (j.number + UInt64.ofNat n) = j.records.drop n := by
    rw [HostLog.after, h.records]
    refine h.leads.numbered.filter_eq_drop ?_ n inside
    rw [h.number, ← h.records]
    simpa using bounded
  cases snapshot with
  | none =>
      have start : (0 : SequenceNumber) = j.number + UInt64.ofNat 0 := by
        rw [h.number]
        rfl
      obtain ⟨last, replays, same⟩ := h.leads.replaysAll_drop lawful (.fresh blank)
        (Nat.zero_le _) start (congrArg Except.ok h.state)
      refine ⟨last, ?_, same⟩
      rw [Option.elim_none, start, rest 0 (Nat.zero_le _)]
      exact @Prelude.mk E o blank ⟨id, none⟩ _ _ _ admits .none replays
  | some p =>
      obtain ⟨n, state, inside, number, decodes, folded⟩ := h.recalls p (known p rfl)
      obtain ⟨last, replays, same⟩ := h.leads.replaysAll_drop lawful
        ⟨state, .ofSnapshot p.sequenceNumber⟩ inside number folded
      refine ⟨last, ?_, same⟩
      rw [Option.elim_some, number, rest n inside]
      exact @Prelude.mk E o blank ⟨id, some p⟩ _ _ _ admits (.decoded heeding decodes) replays

end Kept

namespace Session

variable {E : Entity} {blank : E.State} {s : Session E} {requireEvents : Bool}
variable {j : Journal E} {log : HostLog}

theorem kept_settle (sourced : E.model = .eventSourced requireEvents)
    (h : Kept blank j log (s.life blank)) (shared : Shared E.Memory) (command : Command)
    (patience : Nat) (id : Uuid) (notices : List Notice) (calls : List TraceCall)
    (lawful : E.states.LawfulAt (((s.awake blank).settle
      (s.verdict blank shared command patience)).life blank).state) :
    let ending := (s.verdict blank shared command patience).ending command.commandId id
    Kept blank (j.note s blank shared ⟨.command command, patience⟩ ending)
      (log.hear ⟨⟨.command command, patience⟩, ending, notices, calls⟩)
      (((s.awake blank).settle (s.verdict blank shared command patience)).life blank) := by
  have leads := leadsTo_settle sourced h.leads shared command patience id
  cases verdict : s.verdict blank shared command patience with
  | crashed crash => exact h
  | givenUp => exact h
  | refused e =>
      rw [verdict] at leads lawful
      cases severity : e.severity with
      | validation =>
          simp only [Verdict.ending, CommandError.answer, severity, Journal.note, HostLog.hear,
            Bool.false_eq_true, if_false] at leads ⊢
          exact h.append leads lawful none (fun _ none => by cases none)
      | protocol | unexpected =>
          simp only [Verdict.ending, CommandError.answer, severity]
          exact h
  | granted result =>
      rw [verdict] at leads lawful
      rw [life_settle] at leads lawful ⊢
      simp only [Verdict.ending, Verdict.life, CommandResult.toReply, Journal.note,
        HostLog.hear] at leads lawful ⊢
      cases deletes : result.deletes with
      | true =>
          simp only [if_true]
          exact Kept.fresh blank
      | false =>
          simp only [deletes, Bool.false_eq_true, if_false] at leads lawful ⊢
          exact h.append leads lawful result.snapshot (extends_of_judge sourced verdict).pictured

theorem kept_serve (sourced : E.model = .eventSourced requireEvents)
    (empty : E.emptyState = .ok blank) (live : s.Live) (h : Kept blank j log (s.life blank))
    (shared : Shared E.Memory) (turn : Turn) (notices : List Notice) (calls : List TraceCall)
    (alive : (s.serve shared turn).session.phase ≠ .terminated)
    (lawful : E.states.LawfulAt ((s.serve shared turn).session.life blank).state) :
    let step := s.serve shared turn
    Kept blank (j.note s blank shared turn step.response.ending)
      (log.hear ⟨turn, step.response.ending, notices, calls⟩) (step.session.life blank) := by
  intro step
  have leads := leadsTo_serve sourced empty h.leads shared turn alive
  obtain ⟨message, patience⟩ := turn
  cases fits_of_serve empty alive with
  | init waiting => rcases live with live | live <;> rw [waiting] at live <;> cases live
  | @event record _ replaying replays =>
      obtain ⟨after, ended⟩ := serve_event empty replaying replays shared patience
      obtain ⟨-, decodes, -⟩ := replays
      simp only [step]
      rw [ended] at leads ⊢
      simp only [Journal.note, HostLog.hear, decodes] at leads ⊢
      simpa using h.append leads lawful none (fun _ none => by cases none)
  | @command command _ own =>
      obtain ⟨id, after, ended⟩ := serve_command empty live own shared patience
      simp only [step]
      rw [after] at lawful ⊢
      rw [ended]
      exact kept_settle sourced h shared command patience id notices calls lawful
  | @snapshotRequest request =>
      obtain ⟨id, after, ended⟩ := serve_snapshotRequest empty live request shared patience
      simp only [step]
      rw [after] at lawful ⊢
      rw [ended]
      simp only [portrait]
      cases encodes : E.states.encode (s.life blank).state with
      | error e => exact h
      | ok json => exact h.portrayed lawful encodes

theorem kept_converse (sourced : E.model = .eventSourced requireEvents)
    (empty : E.emptyState = .ok blank) (live : s.Live) (h : Kept blank j log (s.life blank))
    (shared : Shared E.Memory) (turns : List Turn)
    (alive : (s.converse shared turns).session.phase ≠ .terminated)
    (lawful : ∀ before after, turns = before ++ after →
      E.states.LawfulAt ((s.converse shared before).session.life blank).state) :
    Kept blank (j.chronicle s blank shared turns)
      ((s.converse shared turns).exchanges.foldl HostLog.hear log)
      ((s.converse shared turns).session.life blank) := by
  induction turns generalizing s shared j log with
  | nil => exact h
  | cons turn rest ih =>
      have opening := phase_ne_terminated_of_converse (s := (s.serve shared turn).session) alive
      have first := kept_serve sourced empty live h shared turn (s.serve shared turn).notices
        (s.serve shared turn).calls opening (lawful [turn] rest rfl)
      refine ih (frame_serve empty live shared turn opening).1 first _ alive ?_
      rintro before after rfl
      exact lawful (turn :: before) after rfl

theorem serve_unseeded (empty : E.emptyState = .ok blank) {o : Options} {id : EntityId}
    {first : Option Snapshot} (unseeded : first = none ∨ o.ignoreInitSnapshot = true)
    (shared : Shared E.Memory) (patience : Nat)
    (alive : ((fresh o : Session E).serve shared
      ⟨.init ⟨id, first⟩, patience⟩).session.phase ≠ .terminated) :
    o.Admits id ∧ Journal.base (E := E) o blank first = .fresh blank ∧
      ((fresh o : Session E).serve shared ⟨.init ⟨id, first⟩, patience⟩).session =
        (fresh o : Session E).opened id (.fresh blank) ∧
      ((fresh o : Session E).serve shared ⟨.init ⟨id, first⟩, patience⟩).response.ending =
        .quiet := by
  cases fits_of_serve empty alive with
  | init waiting admits _ =>
      cases first with
      | none => exact ⟨admits, rfl, serve_init empty waiting admits .none shared patience⟩
      | some snapshot =>
          have ignoring : o.ignoreInitSnapshot = true := by
            rcases unseeded with none | ignoring
            · cases none
            · exact ignoring
          exact ⟨admits, if_pos ignoring,
            serve_init empty waiting admits (.ignored ignoring) shared patience⟩

theorem kept_unseeded (sourced : E.model = .eventSourced requireEvents)
    (empty : E.emptyState = .ok blank) {o : Options} {id : EntityId} {first : Option Snapshot}
    (unseeded : first = none ∨ o.ignoreInitSnapshot = true) (patience : Nat) (rest : List Turn)
    (shared : Shared E.Memory) :
    let turns := ⟨.init ⟨id, first⟩, patience⟩ :: rest
    let old := (fresh o : Session E).converse shared turns
    old.session.phase ≠ .terminated →
    (∀ before after, turns = before ++ after → E.states.LawfulAt
      (((fresh o : Session E).converse shared before).session.life blank).state) →
    Kept blank ((Journal.fresh blank).chronicle (fresh o : Session E) blank shared turns)
        (.ofExchanges old.exchanges) (old.session.life blank) ∧
      o.Admits id ∧ old.session.Live ∧ old.session.options = o ∧
      old.session.identity = some id := by
  intro turns old alive lawful
  obtain ⟨admits, base, begun, quiet⟩ := serve_unseeded empty unseeded shared patience
    (phase_ne_terminated_of_converse (s := ((fresh o : Session E).serve shared
      ⟨.init ⟨id, first⟩, patience⟩).session) alive)
  have lawful' (before after : List Turn) (split : rest = before ++ after) :=
    lawful (⟨.init ⟨id, first⟩, patience⟩ :: before) after (by rw [List.cons_append, ← split])
  simp only [turns, old, Session.converse, Journal.chronicle, HostLog.ofExchanges, List.foldl_cons,
    Journal.note, HostLog.hear, quiet, begun] at alive lawful' ⊢
  have live : ((fresh o : Session E).opened id (.fresh blank)).Live := .inl rfl
  rw [show (fresh o : Session E).options = o from rfl, base]
  exact ⟨kept_converse sourced empty live (Kept.fresh blank) _ rest alive lawful', admits,
    frame_converse empty live _ rest alive⟩

/-- A new channel that gets one of the snapshots a host was given since the last deletion, or
none, and the events after it, comes to the state and the number of the old channel, where a
deleted entity counts as the empty state at number 0, and answers every later list of commands
and snapshot requests in the same way. -/
theorem converse_recovers (sourced : E.model = .eventSourced requireEvents)
    (empty : E.emptyState = .ok blank) (steady : E.Steady) (o : Options) (id : EntityId)
    (first : Option Snapshot) (unseeded : first = none ∨ o.ignoreInitSnapshot = true)
    (patience : Nat) (rest : List Turn) (shared : Shared E.Memory) :
    let turns := ⟨.init ⟨id, first⟩, patience⟩ :: rest
    let old := (fresh o : Session E).converse shared turns
    let log := HostLog.ofExchanges old.exchanges
    old.session.phase ≠ .terminated → log.events.length < 2 ^ 64 →
    (∀ event ∈ ((Journal.fresh blank).chronicle (fresh o : Session E) blank shared turns).events,
      E.events.LawfulAt event) →
    (∀ before after, turns = before ++ after → E.states.LawfulAt
      (((fresh o : Session E).converse shared before).session.state?.getD blank)) →
    ∀ snapshot, (∀ p, snapshot = some p → p ∈ log.snapshots) →
    ∀ shared' turns', turns'.map Turn.message = .init ⟨id, snapshot⟩ ::
      (log.after (snapshot.elim 0 Snapshot.sequenceNumber)).map .event →
      let new := (fresh { o with ignoreInitSnapshot := false } : Session E).converse shared' turns'
      new.session.phase = .replaying ∧
        new.session.state? = some (old.session.state?.getD blank) ∧
        new.session.sequenceNumber? = some (old.session.sequenceNumber?.getD 0) ∧
        ∀ later, (∀ turn ∈ later, turn.message.Asks) →
          List.Forall₂ Exchange.Alike (new.session.converse new.shared later).exchanges
            (old.session.converse old.shared later).exchanges := by
  intro turns old log alive bounded lawfulEvents lawfulStates snapshot known shared' turns' same new
  simp only [state_getD] at lawfulStates ⊢
  rw [sequenceNumber_getD _ blank]
  obtain ⟨kept, admits, live, options, identity⟩ :=
    kept_unseeded sourced empty unseeded patience rest shared alive lawfulStates
  let o' : Options := { o with ignoreInitSnapshot := false }
  obtain ⟨last, recovery, state, current⟩ :=
    kept.prelude lawfulEvents bounded (o := o') rfl admits known
  obtain ⟨replaying, identity', options', living⟩ :=
    converse_prelude empty recovery shared' same
  have here : new.session.life blank = last := by rw [Session.life, living, Option.getD_some]
  have answers : AnswersAlike blank new.session old.session := by
    refine ⟨?_, ?_, identity'.trans identity.symm, here ▸ state, here ▸ current⟩
    · rw [options', options]
    · rw [options', options]
  refine ⟨replaying, ?_, ?_, ?_⟩
  · rw [state?, living, ← state]
    rfl
  · rw [sequenceNumber?, living, ← current]
    rfl
  · intro later asks
    exact (Equivalent.live (.inl replaying) live answers).converse empty steady _ _ asks

/-- A visit to a counter is recovered from the snapshot after its second event. -/
theorem converse_recovers_visit :
    let o : Options := .default
    let old := (fresh o : Session Samples.Counter.entity).converse Samples.Counter.host
      (⟨.init ⟨"a", none⟩, 0⟩ :: Samples.Counter.visit.drop 1)
    let turns : List Turn := [⟨.init ⟨"a", some ⟨2, Samples.Counter.toJson ⟨8⟩⟩⟩, 0⟩,
      ⟨.event ⟨3, (Samples.CounterEvent.increased 4).toJson⟩, 0⟩]
    let new := (fresh { o with ignoreInitSnapshot := false } :
      Session Samples.Counter.entity).converse Samples.Counter.host turns
    new.session.phase = .replaying ∧
      new.session.state? = some (old.session.state?.getD ⟨0⟩) ∧
      new.session.sequenceNumber? = some (old.session.sequenceNumber?.getD 0) ∧
      ∀ later, (∀ turn ∈ later, turn.message.Asks) →
        List.Forall₂ Exchange.Alike (new.session.converse new.shared later).exchanges
          (old.session.converse old.shared later).exchanges := by
  intro o old turns new
  refine @converse_recovers Samples.Counter.entity ⟨0⟩ false rfl rfl Samples.Counter.steady o
    "a" none (.inl rfl) 0 (Samples.Counter.visit.drop 1) Samples.Counter.host (by decide)
    (by decide) (fun event _ => Samples.Counter.lawfulAt_event event)
    (fun _ _ _ => Samples.Counter.lawfulAt_state _) (some ⟨2, Samples.Counter.toJson ⟨8⟩⟩) ?_
    Samples.Counter.host turns (by decide)
  rintro p ⟨⟩
  decide

end Session

end EntityEngine
