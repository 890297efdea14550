import EntityEngine.Proofs.Mirror

/-!
# Key-value discipline

The state of a key-value entity is replaced as a whole or not at all. The effects that its
handlers build may combine events, replacements, deletions and rejections as they like; the
checks on an effect and the putting in force of its result agree on what comes of them. The
main statement is that a reply of such an entity carries no event and no snapshot, that
asking it never moves its number except for a deletion, and that its state is always the
one that the last effective replacement since its last deletion gave, or the one it started
from.
-/

namespace EntityEngine

def Ending.reply? : Ending → Option Reply
  | .answered out => out.reply?
  | _ => none

/-- A reply that shows a new state or deletes the entity. -/
def Reply.Changes (r : Reply) : Prop := r.stateUpdate ≠ none ∨ r.deleteAfter = true

def Ending.Changes (ending : Ending) : Prop := ∃ r, ending.reply? = some r ∧ r.Changes

def Ending.deletes (ending : Ending) : Bool := ending.reply?.any Reply.deleteAfter

namespace Effect

variable {S E : Type} {m : Mechanics S E} {effect : Effect S E} {state : S} {i : Interpretation}

/-- The result of a key-value effect has no event and no snapshot. -/
theorem Interpreted.silent {result : CommandResult S} (h : Interpreted m effect state i result)
    (replaced : i.model = .keyValue) : result.events = [] ∧ result.snapshot = none := by
  cases h with
  | rejected => exact ⟨rfl, rfl⟩
  | @carried _ events next _ _ _ _ model encoded _ taken =>
      have silent : effect.events = [] := by
        by_contra emits
        simp [checkModel, replaced, emits] at model
      rw [silent] at encoded
      cases encoded
      refine ⟨rfl, ?_⟩
      cases next with
      | none => cases taken; rfl
      | some after =>
          simp [snapshot?, silent] at taken
          exact taken.symm

/-- A state update is the encoding of the replacement that is put in force. -/
theorem Interpreted.updated {result : CommandResult S} (h : Interpreted m effect state i result)
    {json : Json} (update : result.stateUpdate = some json) :
    ∃ next, effect.replacement = some next ∧ result.nextState = some next ∧
      m.encodeState next = .ok json := by
  cases h with
  | rejected => cases update
  | @carried _ _ next shown _ _ _ _ _ changed _ =>
      obtain rfl : shown = some json := update
      unfold nextState at changed
      cases replacement : effect.replacement with
      | some after =>
          simp only [replacement] at changed
          cases encoded : m.encodeState after with
          | error e => rw [encoded] at changed; cases changed
          | ok json =>
              rw [encoded] at changed
              cases changed
              exact ⟨after, rfl, rfl, encoded⟩
      | none =>
          simp only [replacement] at changed
          split at changed
          · cases changed
          · split at changed <;> cases changed

end Effect

theorem Inbound.Addresses.asks {id : EntityId} {message : Inbound}
    (addressed : message.Addresses id) : message.Asks := by
  cases message <;> trivial

namespace Session

variable {E : Entity} {blank : E.State} {s : Session E}

/-- What a message to a live key-value entity leaves of its life. -/
inductive Leaves (blank : E.State) (s : Session E) (shared : Shared E.Memory) (turn : Turn) :
    Ending → Option (Incarnation E.State) → Prop
  | still {ending : Ending} (idle : ¬ ending.Changes) :
      Leaves blank s shared turn ending (some (s.life blank))
  | deleted {r : Reply} (deletes : r.deleteAfter = true) :
      Leaves blank s shared turn (.answered (.reply r)) none
  | replaced {command : Command} {effect : Effect E.State E.Event} {next : E.State} {json : Json}
      {r : Reply} (asked : turn.message = .command command)
      (heard : s.hearing blank shared command turn.patience = .ended (.ok effect))
      (replacement : effect.replacement = some next) (encoded : E.states.encode next = .ok json)
      (shown : r.stateUpdate = some json) (keeps : r.deleteAfter = false) :
      Leaves blank s shared turn (.answered (.reply r)) (some { s.life blank with state := next })

theorem Leaves.of_idle {shared : Shared E.Memory} {turn : Turn} {ending : Ending}
    {after : Option (Incarnation E.State)} (leaves : Leaves blank s shared turn ending after)
    (idle : ¬ ending.Changes) : after = some (s.life blank) := by
  cases leaves with
  | still => rfl
  | deleted deletes => exact (idle ⟨_, rfl, .inr deletes⟩).elim
  | replaced _ _ _ _ shown =>
      refine (idle ⟨_, rfl, .inl ?_⟩).elim
      rw [shown]
      exact Option.some_ne_none _

/-- A reply tells what became of the state. -/
theorem Leaves.of_reply {shared : Shared E.Memory} {turn : Turn} {ending : Ending}
    {after : Option (Incarnation E.State)} (leaves : Leaves blank s shared turn ending after)
    {r : Reply} (replied : ending.reply? = some r) :
    (r.deleteAfter = true → after = none) ∧
      (r.deleteAfter = false → ∀ json, r.stateUpdate = some json →
        ∃ command effect next, turn.message = .command command ∧
          s.hearing blank shared command turn.patience = .ended (.ok effect) ∧
          effect.replacement = some next ∧ E.states.encode next = .ok json ∧
          after = some { s.life blank with state := next }) := by
  constructor
  · intro deletes
    cases leaves with
    | still idle => exact (idle ⟨r, replied, .inr deletes⟩).elim
    | deleted => rfl
    | replaced _ _ _ _ _ keeps =>
        cases replied
        rw [deletes] at keeps
        cases keeps
  · intro keeps json update
    cases leaves with
    | still idle =>
        refine (idle ⟨r, replied, .inl ?_⟩).elim
        rw [update]
        exact Option.some_ne_none _
    | deleted deletes =>
        cases replied
        rw [keeps] at deletes
        cases deletes
    | replaced asked heard replacement encoded shown =>
        cases replied
        cases update.symm.trans shown
        exact ⟨_, _, _, asked, heard, replacement, encoded, rfl⟩

/-- Only a deletion moves the number. -/
theorem Leaves.current {shared : Shared E.Memory} {turn : Turn} {ending : Ending}
    {after : Option (Incarnation E.State)} (leaves : Leaves blank s shared turn ending after) :
    (after.getD (.fresh blank)).position.current =
      if ending.deletes then 0 else (s.life blank).position.current := by
  cases leaves with
  | @still ending idle =>
      have keeps : ending.deletes = false := by
        rw [Ending.deletes, Option.any_eq_false]
        intro r replied
        by_contra deletes
        exact idle ⟨r, replied, .inr (by simpa using deletes)⟩
      rw [keeps]
      rfl
  | @deleted r deletes =>
      have deletes : (Ending.answered (.reply r)).deletes = true := deletes
      rw [deletes]
      rfl
  | @replaced _ _ _ _ r _ _ _ _ _ keeps =>
      have keeps : (Ending.answered (.reply r)).deletes = false := keeps
      rw [keeps]
      rfl

theorem reply?_answer (e : CommandError) (commandId : UInt64) (id : Uuid) {r : Reply}
    (replied : (e.answer commandId id).reply? = some r) :
    r.emittedEvents = [] ∧ r.snapshot = none ∧ ¬ r.Changes := by
  unfold CommandError.answer at replied
  split at replied
  · cases replied
    exact ⟨rfl, rfl, by simp [Reply.Changes]⟩
  · cases replied

theorem reply?_portrait (life : Incarnation E.State) (requestId : UInt64) (id : Uuid) :
    (portrait life requestId id).reply? = none := by
  unfold portrait
  split <;> rfl

theorem reply?_closing (message : Inbound) : (closing message).reply? = none := by
  cases message <;> rfl

theorem after_of_silent {life : Incarnation E.State} {result : CommandResult E.State}
    (silent : result.events = [] ∧ result.snapshot = none) :
    life.after result = { life with state := result.nextState.getD life.state } := by
  unfold Incarnation.after
  rw [silent.1, silent.2]
  simp

theorem leaves_decided (replaced : E.model = .keyValue) (s : Session E) (shared : Shared E.Memory)
    (command : Command) (patience : Nat) (id : Uuid) :
    let v := s.verdict blank shared command patience
    Leaves blank s shared ⟨.command command, patience⟩ (v.ending command.commandId id)
      ((s.awake blank).settle v).incarnation := by
  intro v
  have judged : E.judge s.options.policy (s.life blank) command.operation
      (s.hearing blank shared command patience) = v := rfl
  cases verdict : v with
  | crashed crash =>
      apply Leaves.still
      rintro ⟨r, replied, -⟩
      cases replied
  | givenUp =>
      apply Leaves.still
      rintro ⟨r, replied, -⟩
      cases replied
  | refused e =>
      apply Leaves.still
      rintro ⟨r, replied, changes⟩
      exact (reply?_answer e command.commandId id replied).2.2 changes
  | granted result =>
      rw [verdict] at judged
      obtain ⟨effect, heard, interpreted⟩ := interpreted_of_judge judged
      have silent := interpreted.silent replaced
      cases deletes : result.deletes with
      | true =>
          have gone : ((s.awake blank).settle (.granted result)).incarnation = none := by
            simp only [settle, commit, deletes, if_true]
          rw [gone]
          exact .deleted deletes
      | false =>
          have kept : ((s.awake blank).settle (.granted result)).incarnation =
              some ((s.life blank).after result) := by
            simp only [settle, commit, deletes, Bool.false_eq_true, if_false]
            rfl
          rw [kept, after_of_silent silent]
          cases update : result.stateUpdate with
          | none =>
              have still : result.nextState = none := by
                obtain ⟨still, -⟩ | ⟨next, json, -, shown, -⟩ := interpreted.replaces replaced
                · exact still
                · rw [update] at shown
                  cases shown
              rw [still]
              apply Leaves.still
              rintro ⟨r, replied, changes⟩
              cases replied
              simp [Reply.Changes, CommandResult.toReply, update, deletes] at changes
          | some json =>
              obtain ⟨next, replacement, changed, encoded⟩ := interpreted.updated update
              rw [changed]
              exact .replaced rfl heard replacement encoded update deletes

theorem leaves_serve (empty : E.emptyState = .ok blank) (replaced : E.model = .keyValue)
    (shared : Shared E.Memory) {turn : Turn} (asks : turn.message.Asks)
    (alive : (s.serve shared turn).session.phase ≠ .terminated) :
    Leaves blank s shared turn (s.serve shared turn).response.ending
      (s.serve shared turn).session.incarnation := by
  have served := serve_served empty s shared turn
  generalize (s.serve shared turn).session = after at *
  generalize (s.serve shared turn).response.ending = ending at *
  cases served with
  | closed closed => exact (alive closed).elim
  | broken _ _ closed => exact (alive closed).elim
  | opened => exact asks.elim
  | replayed => exact asks.elim
  | portrayed live =>
      refine .still fun ⟨r, replied, _⟩ => ?_
      rw [Ending.reply?, reply?_portrait] at replied
      cases replied
  | decided live own => exact leaves_decided replaced s shared _ _ _

/-- Whatever the message, a reply has no event and no snapshot. -/
theorem silent_serve (empty : E.emptyState = .ok blank) (replaced : E.model = .keyValue)
    (s : Session E) (shared : Shared E.Memory) (turn : Turn) {r : Reply}
    (replied : (s.serve shared turn).response.ending.reply? = some r) :
    r.emittedEvents = [] ∧ r.snapshot = none := by
  have served := serve_served empty s shared turn
  generalize (s.serve shared turn).session = after at *
  generalize (s.serve shared turn).response.ending = ending at *
  cases served with
  | closed closed =>
      rw [reply?_closing] at replied
      cases replied
  | broken => cases replied
  | opened => cases replied
  | replayed => cases replied
  | portrayed live =>
      rw [Ending.reply?, reply?_portrait] at replied
      cases replied
  | @decided command patience id live own =>
      cases verdict : s.verdict blank shared command patience with
      | crashed crash => rw [verdict] at replied; cases replied
      | givenUp => rw [verdict] at replied; cases replied
      | refused e =>
          rw [verdict] at replied
          obtain ⟨events, snapshot, -⟩ := reply?_answer e command.commandId id replied
          exact ⟨events, snapshot⟩
      | granted result =>
          rw [verdict] at replied
          cases replied
          obtain ⟨effect, -, interpreted⟩ := interpreted_of_judge verdict
          exact interpreted.silent replaced

theorem silent_converse (empty : E.emptyState = .ok blank) (replaced : E.model = .keyValue)
    (s : Session E) (shared : Shared E.Memory) (turns : List Turn) :
    ∀ x ∈ (s.converse shared turns).exchanges, ∀ r, x.ending.reply? = some r →
      r.emittedEvents = [] ∧ r.snapshot = none := by
  induction turns generalizing s shared with
  | nil => exact fun x member => nomatch member
  | cons turn rest ih =>
      refine List.forall_mem_cons.mpr ⟨fun r replied => ?_, ih _ _⟩
      exact silent_serve empty replaced s shared turn replied

theorem active_serve (empty : E.emptyState = .ok blank) (shared : Shared E.Memory) {turn : Turn}
    (asks : turn.message.Asks) (alive : (s.serve shared turn).session.phase ≠ .terminated) :
    (s.serve shared turn).session.phase = .active := by
  have served := serve_served empty s shared turn
  generalize (s.serve shared turn).session = after at *
  generalize (s.serve shared turn).response.ending = ending at *
  cases served with
  | closed closed => exact (alive closed).elim
  | broken _ _ closed => exact (alive closed).elim
  | opened => exact asks.elim
  | replayed => exact asks.elim
  | portrayed => rfl
  | decided => exact (settle_frame _ _).1

theorem asks_of_active (empty : E.emptyState = .ok blank) (active : s.phase = .active)
    (shared : Shared E.Memory) {turns : List Turn}
    (alive : (s.converse shared turns).session.phase ≠ .terminated) :
    ∀ turn ∈ turns, turn.message.Asks := by
  induction turns generalizing s shared with
  | nil => exact fun turn member => nomatch member
  | cons turn rest ih =>
      have opening := phase_ne_terminated_of_converse (s := (s.serve shared turn).session) alive
      have asks : turn.message.Asks := by
        have fits := fits_of_serve empty opening
        generalize turn.message = message at fits
        cases fits with
        | init waiting => rw [active] at waiting; cases waiting
        | event replaying => rw [active] at replaying; cases replaying
        | command => trivial
        | snapshotRequest => trivial
      exact List.forall_mem_cons.mpr ⟨asks, ih (active_serve empty shared asks opening) _ alive⟩

/-- While nothing changes it, the life of a session stays. -/
theorem incarnation_converse_idle (empty : E.emptyState = .ok blank)
    (replaced : E.model = .keyValue) (shared : Shared E.Memory) {turns : List Turn}
    (asks : ∀ turn ∈ turns, turn.message.Asks)
    (alive : (s.converse shared turns).session.phase ≠ .terminated)
    (idle : ∀ x ∈ (s.converse shared turns).exchanges, ¬ x.ending.Changes) :
    (s.converse shared turns).session.incarnation = s.incarnation ∨
      (s.converse shared turns).session.incarnation = some (s.life blank) := by
  induction turns generalizing s shared with
  | nil => exact .inl rfl
  | cons turn rest ih =>
      obtain ⟨first, others⟩ := List.forall_mem_cons.mp asks
      obtain ⟨unchanged, later⟩ := List.forall_mem_cons.mp idle
      have opening := phase_ne_terminated_of_converse (s := (s.serve shared turn).session) alive
      have still : (s.serve shared turn).session.incarnation = some (s.life blank) :=
        (leaves_serve empty replaced shared first opening).of_idle unchanged
      have same : (s.serve shared turn).session.life blank = s.life blank := by
        rw [life, still, Option.getD_some]
      have last := ih (s := (s.serve shared turn).session) _ others alive later
      rw [still, same, or_self] at last
      exact .inr last

theorem converse_of_split {shared : Shared E.Memory} {turns : List Turn}
    {before after : List Exchange} {x : Exchange}
    (split : (s.converse shared turns).exchanges = before ++ x :: after) :
    let earlier := s.converse shared (before.map Exchange.turn)
    let step := earlier.session.serve earlier.shared x.turn
    let later := step.session.converse step.shared (after.map Exchange.turn)
    x.ending = step.response.ending ∧ after = later.exchanges ∧
      (s.converse shared turns).session = later.session := by
  have same : turns = before.map Exchange.turn ++ x.turn :: after.map Exchange.turn := by
    rw [← s.map_turn_exchanges shared turns, split, List.map_append, List.map_cons]
  subst same
  rw [converse_append] at split ⊢
  have lengths : (s.converse shared (before.map Exchange.turn)).exchanges.length =
      before.length := by
    simpa using congrArg List.length (s.map_turn_exchanges shared (before.map Exchange.turn))
  obtain ⟨-, here⟩ := List.append_inj split lengths
  obtain ⟨here, later⟩ := List.cons.inj here
  exact ⟨by rw [← here], later.symm, rfl⟩

theorem asks_of_reply (empty : E.emptyState = .ok blank) (s : Session E)
    (shared : Shared E.Memory) (turn : Turn) {r : Reply}
    (replied : (s.serve shared turn).response.ending.reply? = some r) : turn.message.Asks := by
  have served := serve_served empty s shared turn
  generalize (s.serve shared turn).session = after at *
  generalize (s.serve shared turn).response.ending = ending at *
  cases served with
  | closed closed =>
      rw [reply?_closing] at replied
      cases replied
  | broken => cases replied
  | opened => cases replied
  | replayed => cases replied
  | portrayed => trivial
  | decided => trivial

/-- The state after the last exchange that changed it. -/
theorem state_of_split (empty : E.emptyState = .ok blank) (replaced : E.model = .keyValue)
    {shared : Shared E.Memory} {turns : List Turn}
    (alive : (s.converse shared turns).session.phase ≠ .terminated)
    {before after : List Exchange} {x : Exchange} {r : Reply}
    (split : (s.converse shared turns).exchanges = before ++ x :: after)
    (idle : ∀ y ∈ after, ¬ y.ending.Changes) (replied : x.ending.reply? = some r) :
    let earlier := s.converse shared (before.map Exchange.turn)
    let last := (s.converse shared turns).session
    (r.deleteAfter = true → last.state?.getD blank = blank) ∧
      (r.deleteAfter = false → ∀ json, r.stateUpdate = some json →
        ∃ command effect next, x.turn.message = .command command ∧
          earlier.session.hearing blank earlier.shared command x.turn.patience =
            .ended (.ok effect) ∧
          effect.replacement = some next ∧ E.states.encode next = .ok json ∧
          last.state? = some next) := by
  intro earlier last
  obtain ⟨ended, followed, reached⟩ := converse_of_split split
  rw [followed] at idle
  rw [reached] at alive
  rw [ended] at replied
  have asks := asks_of_reply empty _ _ _ replied
  have opening := phase_ne_terminated_of_converse alive
  have active := active_serve empty earlier.shared asks opening
  obtain ⟨deleted, updated⟩ :=
    (leaves_serve empty replaced earlier.shared asks opening).of_reply replied
  have kept := incarnation_converse_idle empty replaced _ (asks_of_active empty active _ alive)
    alive idle
  rw [← reached] at kept
  constructor
  · intro deletes
    rw [life, deleted deletes] at kept
    obtain none | fresh := kept
    · simp only [last, state?, none, Option.map_none, Option.getD_none]
    · simp only [last, state?, fresh, Option.map_some, Option.getD_some, Option.getD_none,
        Incarnation.fresh]
  · intro keeps json update
    obtain ⟨command, effect, next, asked, heard, replacement, encoded, after⟩ :=
      updated keeps json update
    rw [life, after, Option.getD_some, or_self] at kept
    refine ⟨command, effect, next, asked, heard, replacement, encoded, ?_⟩
    simp only [last, state?, kept, Option.map_some]

theorem number_of_split (empty : E.emptyState = .ok blank) (replaced : E.model = .keyValue)
    {shared : Shared E.Memory} {turns : List Turn}
    (alive : (s.converse shared turns).session.phase ≠ .terminated)
    {before after : List Exchange} {x : Exchange}
    (split : (s.converse shared turns).exchanges = before ++ x :: after)
    (asks : x.turn.message.Asks) :
    (s.converse shared ((before ++ [x]).map Exchange.turn)).session.sequenceNumber?.getD 0 =
      if x.ending.deletes then 0
      else (s.converse shared (before.map Exchange.turn)).session.sequenceNumber?.getD 0 := by
  obtain ⟨ended, -, reached⟩ := converse_of_split split
  rw [reached] at alive
  have opening := phase_ne_terminated_of_converse alive
  rw [List.map_append, List.map_cons, List.map_nil, session_converse_concat,
    sequenceNumber_getD _ blank, sequenceNumber_getD _ blank, ended]
  exact (leaves_serve empty replaced _ asks opening).current

theorem state_of_idle (empty : E.emptyState = .ok blank) (replaced : E.model = .keyValue)
    {o : Options} {shared : Shared E.Memory} {turns : List Turn}
    (alive : ((fresh o : Session E).converse shared turns).session.phase ≠ .terminated)
    (idle : ∀ x ∈ ((fresh o : Session E).converse shared turns).exchanges, ¬ x.ending.Changes) :
    turns = [] ∨ ∃ id recovery live life, turns.map Turn.message = recovery ++ live ∧
      Prelude o blank id recovery life ∧ (∀ message ∈ live, message.Addresses id) ∧
      ((fresh o : Session E).converse shared turns).session.state? = some life.state := by
  obtain ⟨phase, discourse⟩ := (phase_ne_terminated_iff empty shared turns).mp alive
  generalize messages : turns.map Turn.message = all at discourse
  cases discourse with
  | awaitingInit => exact .inl (List.map_eq_nil_iff.mp messages)
  | @replaying id _ life recovery =>
      obtain ⟨-, -, -, living⟩ := converse_prelude empty recovery shared messages
      refine .inr ⟨id, all, [], life, by simp, recovery, fun _ member => (nomatch member), ?_⟩
      simp only [state?, living, Option.map_some]
  | @active id recovery live first prelude nonempty addressed =>
      obtain ⟨earlier, later, rfl, past, rfl⟩ := List.map_eq_append_iff.mp messages
      obtain ⟨-, -, -, living⟩ := converse_prelude empty prelude shared past
      have asks : ∀ turn ∈ later, turn.message.Asks := fun turn member =>
        (addressed _ (List.mem_map_of_mem member)).asks
      rw [converse_append] at alive idle
      have kept := incarnation_converse_idle empty replaced _ asks alive
        fun x member => idle x (List.mem_append_right _ member)
      rw [life, living, Option.getD_some, or_self] at kept
      refine .inr ⟨id, recovery, later.map Turn.message, first, rfl, prelude, addressed, ?_⟩
      rw [session_converse_append, state?, kept]
      rfl

/-- For a key-value entity with an empty state, and any run that leaves its session
unterminated, whatever its handlers do: no reply carries an event or a snapshot. A command
or a snapshot request leaves the number as it is unless it deletes the entity, which
restarts it. And with the last reply that changed the state, the state is the empty one if
that deletes the entity, and else the replacement that the handler gave, which the reply
shows in its encoding. If no reply changed it, it is the state of the recovery. -/
theorem converse_replaces (empty : E.emptyState = .ok blank) (replaced : E.model = .keyValue)
    (o : Options) (shared : Shared E.Memory) (turns : List Turn)
    (alive : ((fresh o : Session E).converse shared turns).session.phase ≠ .terminated) :
    let channel (turns : List Turn) := (fresh o : Session E).converse shared turns
    let talk := channel turns
    (∀ x ∈ talk.exchanges, ∀ r, x.ending.reply? = some r →
      r.emittedEvents = [] ∧ r.snapshot = none) ∧
    (∀ before x after, talk.exchanges = before ++ x :: after →
      let earlier := channel (before.map Exchange.turn)
      let now := channel ((before ++ [x]).map Exchange.turn)
      (x.turn.message.Asks → now.session.sequenceNumber?.getD 0 =
        if x.ending.deletes then 0 else earlier.session.sequenceNumber?.getD 0) ∧
      ((∀ y ∈ after, ¬ y.ending.Changes) → ∀ r, x.ending.reply? = some r →
        (r.deleteAfter = true → talk.session.state?.getD blank = blank) ∧
        (r.deleteAfter = false → ∀ json, r.stateUpdate = some json →
          ∃ command effect next, x.turn.message = .command command ∧
            earlier.session.hearing blank earlier.shared command x.turn.patience =
              .ended (.ok effect) ∧
            effect.replacement = some next ∧ E.states.encode next = .ok json ∧
            talk.session.state? = some next))) ∧
    ((∀ x ∈ talk.exchanges, ¬ x.ending.Changes) →
      turns = [] ∨ ∃ id recovery live life, turns.map Turn.message = recovery ++ live ∧
        Prelude o blank id recovery life ∧ (∀ message ∈ live, message.Addresses id) ∧
        talk.session.state? = some life.state) := by
  intro channel talk
  refine ⟨?_, ?_, ?_⟩
  · exact silent_converse empty replaced _ shared turns
  · intro before x after split earlier now
    constructor
    · exact number_of_split empty replaced alive split
    · intro idle r replied
      exact state_of_split empty replaced alive split idle replied
  · exact state_of_idle empty replaced alive

/-- An order is confirmed, cannot be cancelled then, and is deleted and placed anew. The last
reply shows the state that the session has. -/
theorem converse_replaces_order :
    let talk := (fresh .default : Session Samples.Order.entity).converse Samples.Order.host
      Samples.Order.visit
    Samples.Order.entity.emptyState = .ok .blank ∧ Samples.Order.entity.model = .keyValue ∧
      talk.session.phase ≠ .terminated ∧
      ∃ before x r json next, talk.exchanges = before ++ [x] ∧ x.ending.reply? = some r ∧
        r.stateUpdate = some json ∧ r.emittedEvents = [] ∧
        Samples.Order.entity.states.encode next = .ok json ∧ talk.session.state? = some next := by
  intro talk
  have alive : talk.session.phase ≠ .terminated := by decide
  have answered : talk.exchanges ≠ [] := List.cons_ne_nil _ _
  let last := talk.exchanges.getLast answered
  have split : talk.exchanges = talk.exchanges.dropLast ++ last :: [] :=
    (List.dropLast_append_getLast answered).symm
  have replied : ∃ r, last.ending.reply? = some r ∧ r.deleteAfter = false ∧
      ∃ json, r.stateUpdate = some json := ⟨_, rfl, rfl, _, rfl⟩
  obtain ⟨r, replied, keeps, json, update⟩ := replied
  obtain ⟨silent, changed, -⟩ := @converse_replaces Samples.Order.entity .blank rfl rfl .default
    Samples.Order.host Samples.Order.visit alive
  obtain ⟨-, -, next, -, -, -, encoded, state⟩ := ((changed _ last [] split).2
    (fun _ member => nomatch member) r replied).2 keeps json update
  exact ⟨rfl, rfl, alive, _, last, r, json, next, split, replied, update,
    (silent last (List.getLast_mem answered) r replied).1, encoded, state⟩

end Session

end EntityEngine
