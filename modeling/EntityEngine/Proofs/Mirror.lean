import EntityEngine.Bench
import EntityEngine.Proofs.Recovery
import EntityEngine.Proofs.Wire
import EntityEngine.Samples.Order
import EntityEngine.Samples.Script
import Mathlib.Data.List.Infix

/-!
# A host's record of a key-value entity

A host that stores a key-value entity reads every answer from the wire and keeps one
record: the newest state update, and nothing after a deletion. The main statement is
that the record, decoded, is always the state of the session. It needs that no state put
in force is written as `null`, since such an update does not reach the host; the last
theorem shows a run in which it does not.
-/

namespace EntityEngine

/-- The state that a channel starts from as its host wrote it, if it starts from one. -/
def Options.startingState? (o : Options) (init : Init) : Option Json :=
  if o.ignoreInitSnapshot then none else init.snapshot.map Snapshot.state

/-- What becomes of the record when a host has read a message. -/
def Outbound.record (kept : Option Json) (message : Outbound) : Option Json :=
  if message.isDeleted then none else message.stateUpdate?.or kept

def Exchange.record? (o : Options) (kept : Option Json) (x : Exchange) : Option (Option Json) :=
  match x.turn.message, x.ending with
  | .init init, .quiet => some (o.startingState? init)
  | _, .answered message => (Outbound.ofJson? message.toJson).map (Outbound.record kept)
  | _, _ => some kept

def recordOf? (o : Options) (exchanges : List Exchange) : Option (Option Json) :=
  exchanges.foldlM (Exchange.record? o) none

/-- The state that a record stands for. -/
def Entity.recorded (E : Entity) (blank : E.State) : Option Json → Except DecodeError E.State
  | some json => E.states.decode json
  | none => .ok blank

/-- The message puts no state in force that a host cannot see. -/
def Outbound.Visible (message : Outbound) : Prop :=
  message.stateUpdate? = some .null → message.isDeleted = true

instance : DecidablePred Outbound.Visible := fun message =>
  inferInstanceAs (Decidable (message.stateUpdate? = some .null → message.isDeleted = true))

def Ending.Visible : Ending → Prop
  | .answered message => message.Visible
  | _ => True

instance : DecidablePred Ending.Visible
  | .answered message => inferInstanceAs (Decidable message.Visible)
  | .quiet => .isTrue trivial
  | .crashed _ => .isTrue trivial
  | .cancelled => .isTrue trivial

/-- What a host has read of an answer leaves the record as the answer itself would. -/
theorem Outbound.record_transmitted (kept : Option Json) {message : Outbound}
    (visible : message.Visible) : message.transmitted.record kept = message.record kept := by
  cases message with
  | failure f => rfl
  | snapshotReply r => rfl
  | reply r =>
      by_cases deletes : r.deleteAfter = true
      · have deleted : (Outbound.reply r).isDeleted = true := deletes
        have deleted' : (Outbound.reply r).transmitted.isDeleted = true := deletes
        rw [record, record, if_pos deleted, if_pos deleted']
      · have shown : r.stateUpdate ≠ some .null := fun null => deletes (visible null)
        rw [transmitted, Reply.transmitted_of_ne_null shown]

theorem Exchange.record?_answered (o : Options) (kept : Option Json) {x : Exchange}
    (visible : x.ending.Visible) {message : Outbound} (answered : x.ending = .answered message) :
    x.record? o kept = some (message.record kept) := by
  rw [answered] at visible
  have read : (Outbound.ofJson? message.toJson).map (Outbound.record kept) =
      some (message.record kept) := by
    rw [Outbound.ofJson?_toJson, Option.map_some, Outbound.record_transmitted kept visible]
  rw [← read]
  unfold record?
  rw [answered]
  cases x.turn.message <;> rfl

namespace Effect

variable {S E : Type} {m : Mechanics S E} {effect : Effect S E} {state : S} {i : Interpretation}

/-- A key-value entity changes its state by a replacement that it shows, or not at all. -/
theorem Interpreted.replaces {result : CommandResult S}
    (h : Interpreted m effect state i result) (replaced : i.model = .keyValue) :
    result.nextState = none ∧ result.stateUpdate = none ∨
      ∃ next json, result.nextState = some next ∧ result.stateUpdate = some json ∧
        m.encodeState next = .ok json := by
  cases h with
  | rejected => exact .inl ⟨rfl, rfl⟩
  | @carried _ _ next update _ _ _ model _ changed =>
      have silent : effect.events.isEmpty = true := by
        by_contra emits
        simp [checkModel, replaced, emits] at model
      simp only [nextState, silent, if_true] at changed
      cases replacement : effect.replacement with
      | none =>
          rw [replacement] at changed
          cases changed
          exact .inl ⟨rfl, rfl⟩
      | some after =>
          simp only [replacement] at changed
          cases encoded : m.encodeState after with
          | error e =>
              rw [encoded] at changed
              cases changed
          | ok json =>
              rw [encoded] at changed
              cases changed
              exact .inr ⟨after, json, rfl, rfl, encoded⟩

end Effect

def Verdict.Replaces {E : Entity} (v : Verdict E.State) : Prop :=
  ∀ result, v = .granted result → result.nextState = none ∧ result.stateUpdate = none ∨
    ∃ next json, result.nextState = some next ∧ result.stateUpdate = some json ∧
      E.states.encode next = .ok json

theorem CommandError.record_answer (e : CommandError) (commandId : UInt64) (id : Uuid)
    (kept : Option Json) : (e.answer commandId id).record kept = kept := by
  unfold answer
  cases e.severity <;> rfl

theorem CommandResult.record_toReply {S : Type} (result : CommandResult S) (commandId : UInt64)
    (kept : Option Json) : (Outbound.reply (result.toReply commandId)).record kept =
      if result.deletes then none else result.stateUpdate.or kept :=
  rfl

/-- A record that stands for the state still does so after a verdict that could be seen. -/
theorem Verdict.Replaces.recorded {E : Entity} {blank : E.State} {v : Verdict E.State}
    (replaces : v.Replaces) {life : Incarnation E.State} {kept : Option Json}
    (stands : E.recorded blank kept = .ok life.state)
    (lawful : ∀ result, v = .granted result → result.deletes = false →
      E.states.LawfulAt (life.after result).state) (o : Options) {x : Exchange}
    {command : Command} {id : Uuid} (asked : x.turn.message = .command command)
    (ended : x.ending = v.ending command.commandId id) (visible : x.ending.Visible) :
    ∃ record, x.record? o kept = some record ∧
      E.recorded blank record = .ok (v.life blank life).state := by
  cases v with
  | crashed crash => exact ⟨kept, by simp only [Exchange.record?, asked, ended]; rfl, stands⟩
  | givenUp => exact ⟨kept, by simp only [Exchange.record?, asked, ended]; rfl, stands⟩
  | refused e =>
      refine ⟨kept, ?_, stands⟩
      rw [x.record?_answered o kept visible ended, e.record_answer]
  | granted result =>
      refine ⟨_, x.record?_answered o kept visible ended, ?_⟩
      rw [result.record_toReply]
      simp only [Verdict.life]
      by_cases deletes : result.deletes = true
      · simp only [if_pos deletes]
        rfl
      have lawful := lawful result rfl (Bool.eq_false_iff.mpr deletes)
      simp only [if_neg deletes, Incarnation.state_after] at lawful ⊢
      rcases replaces result rfl with ⟨still, silent⟩ | ⟨next, json, changed, shown, encoded⟩
      · rw [silent, still]
        exact stands
      · rw [changed] at lawful ⊢
        rw [shown]
        exact lawful json encoded

namespace Samples.Order

theorem toJson_eq (o : Order) : o.toJson = .object [("confirmed", .bool o.confirmed),
    ("item", .string o.item), ("placed", .bool o.placed), ("quantity", .nat o.quantity.toNat)] := by
  have first : "confirmed" < "item" ∧ "confirmed" < "placed" ∧ "confirmed" < "quantity" := by
    decide
  have second : "item" < "placed" ∧ "item" < "quantity" := by decide
  have third : "placed" < "quantity" := by decide
  simp only [toJson, Json.ofMembers, List.foldl_cons, List.foldl_nil]
  rw [insertEntry, insertEntry_of_lt first.2.1, insertEntry_of_gt first.1,
    insertEntry_of_lt second.1, insertEntry_of_gt first.2.2, insertEntry_of_gt second.2,
    insertEntry_of_gt third, insertEntry]

theorem read_members (o : Order) :
    read (.named [("confirmed", .bool o.confirmed), ("item", .string o.item),
      ("placed", .bool o.placed), ("quantity", .nat o.quantity.toNat)]) = .ok o := by
  rw [read, Fields.decode_of_cell? rfl (show Json.decodeBool (.bool o.placed) = _ from rfl),
    Fields.decode_of_cell? rfl (show Json.decodeBool (.bool o.confirmed) = _ from rfl),
    Fields.decode_of_cell? rfl (show Json.decodeString (.string o.item) = _ from rfl),
    Fields.decode_of_cell? rfl (Json.decodeUInt32_nat o.quantity)]
  rfl

theorem lawfulAt_state (o : Order) : Order.entity.states.LawfulAt o := by
  rintro json ⟨⟩
  change decode o.toJson = .ok o
  rw [toJson_eq]
  exact Json.decodeRecord_object o.read_members

def host : Shared Unit := entity.share Uuid.ofNat

def visit : List Turn :=
  [⟨.init ⟨"o-1", some ⟨0, (Order.mk true false "tea" 1).toJson⟩⟩, 0⟩,
    ⟨.command (.plain 1 "o-1" "confirm" none), 1⟩,
    ⟨.command (.plain 2 "o-1" "cancel" none), 1⟩,
    ⟨.snapshotRequest ⟨1⟩, 0⟩,
    ⟨.command (.plain 3 "o-1" "delete" none), 1⟩,
    ⟨.command (.plain 4 "o-1" "placeOrder" (some (.ofMembers
      [("item", .string "pot"), ("quantity", .nat 2)]))), 1⟩]

end Samples.Order

namespace Session

variable {E : Entity} {blank : E.State} {s : Session E} {o : Options}

theorem replaces_verdict (replaced : E.model = .keyValue) (s : Session E)
    (shared : Shared E.Memory) (command : Command) (patience : Nat) :
    (s.verdict blank shared command patience).Replaces := by
  intro result granted
  obtain ⟨effect, -, interpreted⟩ := interpreted_of_judge granted
  exact interpreted.replaces replaced

theorem recorded_startingState? {init : Init} {life : Incarnation E.State}
    (seeded : Seeded o blank init.snapshot life) :
    E.recorded blank (o.startingState? init) = .ok life.state := by
  unfold Options.startingState?
  generalize init.snapshot = snapshot at seeded
  cases seeded with
  | none => simp [Entity.recorded, Incarnation.fresh]
  | ignored ignoring => simp [Entity.recorded, Incarnation.fresh, ignoring]
  | decoded heeding decodes => simpa [Entity.recorded, heeding] using decodes

/-- The record follows the state over any message but a replayed event. -/
theorem recorded_serve (empty : E.emptyState = .ok blank) (replaced : E.model = .keyValue)
    (options : s.options = o) (shared : Shared E.Memory) (turn : Turn)
    (alive : (s.serve shared turn).session.phase ≠ .terminated)
    (eventless : ∀ record, turn.message ≠ .event record) {kept : Option Json}
    (stands : E.recorded blank kept = .ok (s.life blank).state)
    (lawful : ∀ state, (s.serve shared turn).session.state? = some state →
      E.states.LawfulAt state) {x : Exchange} (heard : x.turn = turn)
    (ended : x.ending = (s.serve shared turn).response.ending) (visible : x.ending.Visible) :
    ∃ record, x.record? o kept = some record ∧
      E.recorded blank record = .ok ((s.serve shared turn).session.life blank).state := by
  have served := serve_served empty s shared turn
  generalize (s.serve shared turn).session = after at *
  generalize (s.serve shared turn).response.ending = ending at *
  cases served with
  | closed closed => exact (alive closed).elim
  | broken _ _ closed => exact (alive closed).elim
  | @opened init _ life _ _ seeded =>
      rw [options] at seeded
      exact ⟨o.startingState? init, by simp only [Exchange.record?, heard, ended],
        recorded_startingState? seeded⟩
  | @replayed record => exact (eventless record rfl).elim
  | @portrayed request patience id live =>
      refine ⟨_, x.record?_answered o kept visible ended, ?_⟩
      have aside : (portrait (s.life blank) request.requestId id).record kept = kept := by
        unfold portrait
        cases E.states.encode (s.life blank).state <;> rfl
      rw [aside]
      exact stands
  | @decided command patience id live own =>
      have lawful_after : ∀ result, s.verdict blank shared command patience = .granted result →
          result.deletes = false → E.states.LawfulAt ((s.life blank).after result).state := by
        intro result granted stays
        refine lawful _ ?_
        rw [granted]
        simp [settle, commit, stays, state?, awake, Incarnation.after]
      rw [life_settle]
      exact (replaces_verdict replaced s shared command patience).recorded stands lawful_after o
        (congrArg Turn.message heard) ended visible

theorem recorded_converse (empty : E.emptyState = .ok blank) (replaced : E.model = .keyValue)
    (options : s.options = o) (shared : Shared E.Memory) (turns : List Turn)
    (alive : (s.converse shared turns).session.phase ≠ .terminated)
    (eventless : ∀ turn ∈ turns, ∀ record, turn.message ≠ .event record) {kept : Option Json}
    (stands : E.recorded blank kept = .ok (s.life blank).state)
    (lawful : ∀ before after state, turns = before ++ after →
      (s.converse shared before).session.state? = some state → E.states.LawfulAt state)
    (visible : ∀ x ∈ (s.converse shared turns).exchanges, x.ending.Visible) :
    ∃ record, (s.converse shared turns).exchanges.foldlM (Exchange.record? o) kept = some record ∧
      E.recorded blank record = .ok ((s.converse shared turns).session.life blank).state := by
  induction turns generalizing s shared kept with
  | nil => exact ⟨kept, rfl, stands⟩
  | cons turn rest ih =>
      obtain ⟨here, later⟩ := List.forall_mem_cons.mp visible
      obtain ⟨now, others⟩ := List.forall_mem_cons.mp eventless
      have opening := phase_ne_terminated_of_converse (s := (s.serve shared turn).session) alive
      obtain ⟨next, heard, follows⟩ := recorded_serve empty replaced options shared turn opening now
        stands (fun state => lawful [turn] rest state rfl) rfl rfl here
      have same := (options_serve empty shared turn opening).trans options
      obtain ⟨last, recorded, shows⟩ := ih same _ alive others follows
        (fun before after state split => lawful (turn :: before) after state (congrArg _ split))
        later
      refine ⟨last, ?_, shows⟩
      simp only [converse, List.foldlM_cons, heard]
      exact recorded

/-- The record that a host reads from the wire is at every point the state of the session. -/
theorem converse_mirrored (empty : E.emptyState = .ok blank) (replaced : E.model = .keyValue)
    (o : Options) (shared : Shared E.Memory) (turns : List Turn)
    (alive : ((fresh o : Session E).converse shared turns).session.phase ≠ .terminated)
    (eventless : ∀ turn ∈ turns, ∀ record, turn.message ≠ .event record)
    (lawful : ∀ before after state, turns = before ++ after →
      ((fresh o : Session E).converse shared before).session.state? = some state →
        E.states.LawfulAt state)
    (visible : ∀ x ∈ ((fresh o : Session E).converse shared turns).exchanges, x.ending.Visible) :
    ∀ before after, turns = before ++ after →
      let now := (fresh o : Session E).converse shared before
      ∃ record, recordOf? o now.exchanges = some record ∧
        E.recorded blank record = .ok (now.session.state?.getD blank) := by
  rintro before after rfl now
  have opening := alive
  rw [session_converse_append] at opening
  simp only [converse_append, List.mem_append] at visible
  simp only [state_getD]
  refine recorded_converse empty replaced rfl shared before
    (phase_ne_terminated_of_converse opening)
    (fun turn member => eventless turn (List.mem_append_left _ member)) rfl ?_
    (fun x member => visible x (.inl member))
  rintro first second state rfl
  exact lawful first (second ++ after) state (List.append_assoc _ _ _)

/-- A host follows an order through a rejection and a deletion. -/
theorem converse_mirrored_order :
    let channel (turns : List Turn) :=
      (fresh .default : Session Samples.Order.entity).converse Samples.Order.host turns
    (channel Samples.Order.visit).session.state? = some ⟨true, false, "pot", 2⟩ ∧
      ∃ record, recordOf? .default (channel Samples.Order.visit).exchanges = some record ∧
        Samples.Order.entity.recorded .blank record = .ok ⟨true, false, "pot", 2⟩ := by
  intro channel
  have state : (channel Samples.Order.visit).session.state? = some ⟨true, false, "pot", 2⟩ := rfl
  have eventless : ∀ turn ∈ Samples.Order.visit, ∀ record, turn.message ≠ .event record := by
    simp [Samples.Order.visit]
  obtain ⟨record, recorded, shows⟩ := @converse_mirrored Samples.Order.entity .blank rfl rfl
    .default Samples.Order.host Samples.Order.visit (by decide) eventless
    (fun _ _ state _ _ => Samples.Order.lawfulAt_state state) (by decide) Samples.Order.visit []
    (List.append_nil _).symm
  rw [state] at shows
  exact ⟨state, record, recorded, shows⟩

end Session

namespace Samples.Script

def nullVisit : List Turn :=
  [⟨.init ⟨"c-1", none⟩, 0⟩,
    ⟨.command (.plain 1 "c-1" "do" (some (.object
      [("effect", .array [.array [.string "update_state", .null],
        .array [.string "then_reply", .string "ok"]])]))), 1⟩]

theorem lawfulAt_state {value : Json} (readable : value.mentions "!bad" = false) (name : String)
    (model : StateModel) : (Script.entity name model).states.LawfulAt value := by
  intro json encodes
  change encode value = .ok json at encodes
  unfold encode at encodes
  split at encodes
  · cases encodes
  · cases encodes
    change decode value = .ok value
    rw [decode, readable]
    rfl

end Samples.Script

/-- Here the host does not see the new state: its record still stands for the empty one. -/
theorem Session.converse_mirrored_null :
    let E := Samples.Script.entity "kv" .keyValue
    let channel (turns : List Turn) :=
      (fresh .default : Session E).converse (E.share Uuid.ofNat) turns
    let now := channel Samples.Script.nullVisit
    E.model = .keyValue ∧ E.emptyState = .ok (.array []) ∧ now.session.phase ≠ .terminated ∧
      (∀ turn ∈ Samples.Script.nullVisit, ∀ record, turn.message ≠ .event record) ∧
      (∀ before after state, Samples.Script.nullVisit = before ++ after →
        (channel before).session.state? = some state → E.states.LawfulAt state) ∧
      recordOf? .default now.exchanges = some none ∧
      E.recorded (.array []) none ≠ .ok (now.session.state?.getD (.array [])) := by
  intro E channel now
  have state : now.session.state? = some .null := rfl
  refine ⟨rfl, rfl, by decide, by simp [Samples.Script.nullVisit], ?_, by decide, ?_⟩
  · intro before after state split reached
    have readable : ∀ turns ∈ Samples.Script.nullVisit.inits,
        ((channel turns).session.state?.getD .null).mentions "!bad" = false := by decide
    have first := readable before ((List.mem_inits _ _).mpr ⟨after, split.symm⟩)
    rw [reached] at first
    exact Samples.Script.lawfulAt_state first _ _
  · rw [state]
    intro same
    cases same

end EntityEngine
