import Mathlib.Data.List.Induction
import Mathlib.Tactic.ByContra
import EntityEngine.Proofs.Serving

/-!
# The language of a channel

The messages that a channel accepts form a language: one `Init`, then the events of
the history, then commands and snapshot requests. The main statement says that the
phase of a session tells exactly how far its messages have come in this language, and
that the first message outside of it is answered by a failure and changes the session
for the last time. The handlers of the entity have no part in it.
-/

namespace EntityEngine

/-- Messages that the live channel of an entity takes. -/
def Inbound.Addresses (id : EntityId) : Inbound → Prop
  | .command c => c.entityId = id
  | .snapshotRequest _ => True
  | _ => False

/-- A life goes on to another one by recorded events. -/
inductive ReplaysAll {E : Entity} :
    Incarnation E.State → List EventRecord → Incarnation E.State → Prop
  | nil (life : Incarnation E.State) : ReplaysAll life [] life
  | cons {life next last : Incarnation E.State} {record : EventRecord}
      {rest : List EventRecord} (first : Replays life record next)
      (later : ReplaysAll next rest last) : ReplaysAll life (record :: rest) last

/-- An `Init` for an entity with the events of its history, and the life they lead to. -/
inductive Prelude {E : Entity} (o : Options) (blank : E.State) :
    EntityId → List Inbound → Incarnation E.State → Prop
  | mk {init : Init} {records : List EventRecord} {first life : Incarnation E.State}
      (admits : o.Admits init.entityId) (seeded : Seeded o blank init.snapshot first)
      (replays : ReplaysAll first records life) :
      Prelude o blank init.entityId (.init init :: records.map .event) life

/-- The language, with the phase that its messages lead to. -/
inductive Discourse {E : Entity} (o : Options) (blank : E.State) : Phase → List Inbound → Prop
  | awaitingInit : Discourse o blank .awaitingInit []
  | replaying {id : EntityId} {messages : List Inbound} {life : Incarnation E.State}
      (recovery : Prelude o blank id messages life) : Discourse o blank .replaying messages
  | active {id : EntityId} {messages live : List Inbound} {life : Incarnation E.State}
      (recovery : Prelude o blank id messages life) (nonempty : live ≠ [])
      (addressed : ∀ message ∈ live, message.Addresses id) :
      Discourse o blank .active (messages ++ live)

theorem Discourse.ne_terminated {E : Entity} {o : Options} {blank : E.State} {phase : Phase}
    {messages : List Inbound} (h : Discourse o blank phase messages) : phase ≠ .terminated := by
  cases h <;> exact (nomatch ·)

theorem ReplaysAll.concat {E : Entity} {first life next : Incarnation E.State}
    {records : List EventRecord} {record : EventRecord} (h : ReplaysAll first records life)
    (step : Replays life record next) : ReplaysAll first (records ++ [record]) next := by
  induction h with
  | nil life => exact .cons step (.nil next)
  | cons head _ ih => exact .cons head (ih step)

theorem Prelude.start {E : Entity} {o : Options} {blank : E.State} {init : Init}
    {life : Incarnation E.State} (admits : o.Admits init.entityId)
    (seeded : Seeded o blank init.snapshot life) :
    Prelude o blank init.entityId [.init init] life :=
  @Prelude.mk E o blank init [] life life admits seeded (.nil life)

theorem Prelude.concat {E : Entity} {o : Options} {blank : E.State} {id : EntityId}
    {messages : List Inbound} {life next : Incarnation E.State} {record : EventRecord}
    (h : Prelude o blank id messages life) (step : Replays life record next) :
    Prelude o blank id (messages ++ [.event record]) next := by
  obtain ⟨admits, seeded, replays⟩ := h
  simpa using Prelude.mk admits seeded (replays.concat step)

namespace Session

variable {E : Entity} {blank : E.State} {o : Options}

theorem converse_records (empty : E.emptyState = .ok blank) {first last : Incarnation E.State}
    {records : List EventRecord} (replays : ReplaysAll first records last) {s : Session E}
    (replaying : s.phase = .replaying) (living : s.incarnation = some first)
    (shared : Shared E.Memory) {turns : List Turn}
    (messages : turns.map Turn.message = records.map .event) :
    (s.converse shared turns).session.phase = .replaying ∧
      (s.converse shared turns).session.identity = s.identity ∧
      (s.converse shared turns).session.options = s.options ∧
      (s.converse shared turns).session.incarnation = some last := by
  induction replays generalizing s shared turns with
  | nil life =>
      obtain rfl := List.map_eq_nil_iff.mp messages
      exact ⟨replaying, rfl, rfl, living⟩
  | @cons life next last record rest step _ ih =>
      obtain ⟨⟨message, patience⟩, later, rfl, rfl, others⟩ := List.map_eq_cons_iff.mp messages
      have here : s.life blank = life := by rw [Session.life, living, Option.getD_some]
      rw [← here] at step
      have served := (serve_event empty replaying step shared patience).1
      simp only [converse]
      rw [served]
      exact ih (s := s.replayed next) replaying rfl _ others

theorem converse_prelude (empty : E.emptyState = .ok blank) {id : EntityId}
    {messages : List Inbound} {life : Incarnation E.State}
    (recovery : Prelude o blank id messages life) (shared : Shared E.Memory)
    {turns : List Turn} (same : turns.map Turn.message = messages) :
    ((fresh o : Session E).converse shared turns).session.phase = .replaying ∧
      ((fresh o : Session E).converse shared turns).session.identity = some id ∧
      ((fresh o : Session E).converse shared turns).session.options = o ∧
      ((fresh o : Session E).converse shared turns).session.incarnation = some life := by
  obtain ⟨admits, seeded, replays⟩ := recovery
  obtain ⟨⟨message, patience⟩, later, rfl, rfl, others⟩ := List.map_eq_cons_iff.mp same
  have served := (serve_init (s := fresh o) empty rfl admits seeded shared patience).1
  simp only [converse]
  rw [served]
  exact converse_records empty replays rfl rfl _ others

theorem serve_addressed (empty : E.emptyState = .ok blank) {s : Session E} (live : s.Live)
    {id : EntityId} (own : s.identity = some id) (shared : Shared E.Memory) {turn : Turn}
    (addressed : turn.message.Addresses id) :
    (s.serve shared turn).session.phase = .active ∧
      (s.serve shared turn).session.identity = some id := by
  obtain ⟨message, patience⟩ := turn
  cases message with
  | init init => exact addressed.elim
  | event record => exact addressed.elim
  | command command =>
      have own' : s.identity = some command.entityId := own.trans (congrArg some addressed.symm)
      obtain ⟨-, same, -⟩ := serve_command empty live own' shared patience
      rw [same]
      have frame := settle_frame (s.awake blank) (s.verdict blank shared command patience)
      exact ⟨frame.1, frame.2.2.trans own⟩
  | snapshotRequest request =>
      obtain ⟨-, same, -⟩ := serve_snapshotRequest empty live request shared patience
      rw [same]
      exact ⟨rfl, own⟩

theorem converse_addressed (empty : E.emptyState = .ok blank) {s : Session E} (live : s.Live)
    {id : EntityId} (own : s.identity = some id) (shared : Shared E.Memory) {turns : List Turn}
    (nonempty : turns ≠ []) (addressed : ∀ turn ∈ turns, turn.message.Addresses id) :
    (s.converse shared turns).session.phase = .active := by
  induction turns generalizing s shared with
  | nil => exact (nonempty rfl).elim
  | cons turn rest ih =>
      obtain ⟨active, own'⟩ :=
        serve_addressed empty live own shared (addressed turn List.mem_cons_self)
      cases rest with
      | nil => exact active
      | cons next rest =>
          exact ih (.inr active) own' _ (List.cons_ne_nil _ _)
            (fun turn member => addressed turn (List.mem_cons_of_mem _ member))

theorem phase_of_discourse (empty : E.emptyState = .ok blank) {phase : Phase}
    {messages : List Inbound} (discourse : Discourse o blank phase messages)
    (shared : Shared E.Memory) {turns : List Turn} (same : turns.map Turn.message = messages) :
    ((fresh o : Session E).converse shared turns).session.phase = phase := by
  cases discourse with
  | awaitingInit =>
      obtain rfl := List.map_eq_nil_iff.mp same
      rfl
  | replaying recovery => exact (converse_prelude empty recovery shared same).1
  | active recovery nonempty addressed =>
      obtain ⟨before, after, rfl, first, rfl⟩ := List.map_eq_append_iff.mp same
      obtain ⟨replaying, own, -, -⟩ := converse_prelude empty recovery shared first
      rw [session_converse_append]
      refine converse_addressed empty (.inl replaying) own _ ?_ ?_
      · rintro rfl
        exact nonempty rfl
      · intro turn member
        exact addressed _ (List.mem_map_of_mem member)

/-- The session has come here by these messages and is not terminated. -/
inductive Reached (o : Options) (blank : E.State) : List Inbound → Session E → Prop
  | awaitingInit : Reached o blank [] (fresh o)
  | replaying {s : Session E} {id : EntityId} {messages : List Inbound}
      (replaying : s.phase = .replaying) (same : s.options = o) (own : s.identity = some id)
      (recovery : Prelude o blank id messages (s.life blank)) : Reached o blank messages s
  | active {s : Session E} {id : EntityId} {messages live : List Inbound}
      {life : Incarnation E.State} (active : s.phase = .active) (same : s.options = o)
      (own : s.identity = some id) (recovery : Prelude o blank id messages life)
      (nonempty : live ≠ []) (addressed : ∀ message ∈ live, message.Addresses id) :
      Reached o blank (messages ++ live) s

theorem Reached.discourse {messages : List Inbound} {s : Session E}
    (h : Reached o blank messages s) : Discourse o blank s.phase messages := by
  cases h with
  | awaitingInit => exact .awaitingInit
  | replaying replaying _ _ recovery =>
      rw [replaying]
      exact .replaying recovery
  | active active _ _ recovery nonempty addressed =>
      rw [active]
      exact .active recovery nonempty addressed

theorem Reached.options {messages : List Inbound} {s : Session E}
    (h : Reached o blank messages s) : s.options = o := by
  cases h with
  | awaitingInit => rfl
  | replaying _ same => exact same
  | active _ same => exact same

/-- A live session that has been reached is still reached after a message for its entity. -/
theorem Reached.addressed {messages : List Inbound} {s after : Session E} {message : Inbound}
    (h : Reached o blank messages s) (live : s.Live)
    (addresses : ∀ id, s.identity = some id → message.Addresses id)
    (active : after.phase = .active) (same : after.options = s.options)
    (own : after.identity = s.identity) : Reached o blank (messages ++ [message]) after := by
  cases h with
  | awaitingInit => rcases live with h | h <;> cases h
  | replaying _ same' own' recovery =>
      refine .active active (same.trans same') (own.trans own') recovery
        (List.cons_ne_nil _ _) ?_
      simpa using addresses _ own'
  | @active _ _ _ before _ _ same' own' recovery _ addressed =>
      rw [List.append_assoc]
      refine .active active (same.trans same') (own.trans own') recovery (by simp) ?_
      simp only [List.mem_append, List.mem_singleton]
      rintro other (earlier | rfl)
      · exact addressed other earlier
      · exact addresses _ own'

theorem Reached.serve (empty : E.emptyState = .ok blank) {messages : List Inbound}
    {s : Session E} (h : Reached o blank messages s) (shared : Shared E.Memory) (turn : Turn)
    (alive : (s.serve shared turn).session.phase ≠ .terminated) :
    Reached o blank (messages ++ [turn.message]) (s.serve shared turn).session := by
  have served := serve_served empty s shared turn
  generalize (s.serve shared turn).session = after at *
  generalize (s.serve shared turn).response.ending = ending at *
  cases served with
  | closed closed => exact (alive closed).elim
  | broken _ _ closed => exact (alive closed).elim
  | opened waiting admits seeded =>
      cases h with
      | awaitingInit =>
          exact .replaying rfl rfl rfl (.start admits seeded)
      | replaying replaying => rw [waiting] at replaying; cases replaying
      | active active => rw [waiting] at active; cases active
  | replayed replaying replays =>
      cases h with
      | awaitingInit => cases replaying
      | replaying _ same own recovery =>
          exact .replaying replaying same own (recovery.concat replays)
      | active active => rw [replaying] at active; cases active
  | portrayed live => exact h.addressed live (fun _ _ => trivial) rfl rfl rfl
  | @decided command patience _ live own =>
      obtain ⟨active, same, identity⟩ :=
        settle_frame (s.awake blank) (s.verdict blank shared command patience)
      refine h.addressed live ?_ active same identity
      intro id own'
      rw [own] at own'
      exact Option.some.inj own'

theorem reached_of_converse (empty : E.emptyState = .ok blank) (shared : Shared E.Memory)
    (turns : List Turn)
    (alive : ((fresh o : Session E).converse shared turns).session.phase ≠ .terminated) :
    Reached o blank (turns.map Turn.message)
      ((fresh o : Session E).converse shared turns).session := by
  induction turns using List.reverseRecOn with
  | nil => exact .awaitingInit
  | append_singleton before turn ih =>
      have earlier := alive
      rw [session_converse_append] at earlier
      rw [session_converse_concat] at alive ⊢
      rw [List.map_append]
      exact (ih (phase_ne_terminated_of_converse earlier)).serve empty _ turn alive

theorem phase_ne_terminated_iff (empty : E.emptyState = .ok blank) (shared : Shared E.Memory)
    (turns : List Turn) :
    ((fresh o : Session E).converse shared turns).session.phase ≠ .terminated ↔
      ∃ phase, Discourse o blank phase (turns.map Turn.message) := by
  constructor
  · intro alive
    exact ⟨_, (reached_of_converse empty shared turns alive).discourse⟩
  · rintro ⟨phase, discourse⟩
    rw [phase_of_discourse empty discourse shared rfl]
    exact discourse.ne_terminated

theorem failure_of_terminates (empty : E.emptyState = .ok blank) {s : Session E}
    (opening : s.phase ≠ .terminated) (shared : Shared E.Memory) (turn : Turn)
    (closed : (s.serve shared turn).session.phase = .terminated) :
    ∃ failure, (s.serve shared turn).response.ending = .answered (.failure failure) := by
  have unfit := (serve_terminates_iff empty opening shared turn).mp closed
  have served := serve_served empty s shared turn
  generalize (s.serve shared turn).session = after at *
  generalize (s.serve shared turn).response.ending = ending at *
  cases served with
  | closed closed => exact (opening closed).elim
  | broken => exact ⟨_, rfl⟩
  | opened waiting admits seeded => exact (unfit (.init waiting admits seeded)).elim
  | replayed replaying replays => exact (unfit (.event replaying replays)).elim
  | portrayed live => exact (unfit (.snapshotRequest live)).elim
  | decided live own => exact (unfit (.command live own)).elim

/-- A fresh session accepts exactly the language, and its phase tells how far it has come.
The first message outside of the language gets a failure, and what the session is then it
is for ever. -/
theorem converse_accepts (empty : E.emptyState = .ok blank) (o : Options)
    (shared : Shared E.Memory) (turns : List Turn) :
    (((fresh o : Session E).converse shared turns).session.phase ≠ .terminated ↔
      ∃ phase, Discourse o blank phase (turns.map Turn.message)) ∧
    (∀ phase, Discourse o blank phase (turns.map Turn.message) →
      ((fresh o : Session E).converse shared turns).session.phase = phase) ∧
    ∀ before turn after, turns = before ++ turn :: after →
      (∃ phase, Discourse o blank phase (before.map Turn.message)) →
      (¬ ∃ phase, Discourse o blank phase ((before ++ [turn]).map Turn.message)) →
        let earlier := (fresh o : Session E).converse shared before
        let step := earlier.session.serve earlier.shared turn
        (∃ failure, step.response.ending = .answered (.failure failure)) ∧
          step.session.phase = .terminated ∧
          ((fresh o : Session E).converse shared turns).session = step.session := by
  refine ⟨phase_ne_terminated_iff empty shared turns, ?_, ?_⟩
  · intro phase discourse
    exact phase_of_discourse empty discourse shared rfl
  · intro before turn after split accepted broken earlier step
    have opening := (phase_ne_terminated_iff empty shared before).mpr accepted
    have closed : step.session.phase = .terminated := by
      by_contra alive
      rw [← session_converse_concat] at alive
      exact broken ((phase_ne_terminated_iff empty shared (before ++ [turn])).mp alive)
    refine ⟨failure_of_terminates empty opening _ turn closed, closed, ?_⟩
    rw [split, session_converse_append]
    exact converse_terminated closed _ after

/-- A counter's channel ends with the gap between the events 1 and 3. -/
theorem converse_accepts_gap :
    let opening : List Turn := Samples.Counter.visit.take 2
    let gap : Turn := ⟨.event ⟨3, (Samples.CounterEvent.increased 1).toJson⟩, 0⟩
    let earlier :=
      (fresh .default : Session Samples.Counter.entity).converse Samples.Counter.host opening
    let step := earlier.session.serve earlier.shared gap
    (∃ failure, step.response.ending = .answered (.failure failure)) ∧
      step.session.phase = .terminated ∧
      ((fresh .default : Session Samples.Counter.entity).converse Samples.Counter.host
        (opening ++ gap :: Samples.Counter.visit.drop 2)).session = step.session := by
  intro opening gap earlier step
  have accepts (turns : List Turn) := @converse_accepts Samples.Counter.entity ⟨0⟩ rfl .default
    Samples.Counter.host turns
  have accepted := (accepts opening).1.mp (by decide)
  have broken := mt (accepts (opening ++ [gap])).1.mpr (by decide)
  exact (accepts _).2.2 opening gap (Samples.Counter.visit.drop 2) rfl accepted broken

end Session

end EntityEngine
