import Mathlib.Data.List.Forall2
import EntityEngine.Proofs.Interpretation
import EntityEngine.Samples.Counter

/-!
# Which flaw is reported, and what the result is

A handler may combine in one effect what does not belong together, and encoding and
applying can fail in several places at once. The flaws of an effect are ranked. What an
effect without a flaw gives is fixed by its parts. Both are written down here as relations
that make no use of the functions that interpret effects, with numbers as naturals. The
main statement is that interpreting an effect gives the flaw of the lowest rank and
nothing else, and the one result exactly when there is no flaw.
-/

namespace EntityEngine

theorem bind_eq_error {ε α β : Type} {x : Except ε α} {f : α → Except ε β} {e : ε} :
    (x >>= f) = .error e ↔ x = .error e ∨ ∃ a, x = .ok a ∧ f a = .error e := by
  cases x with
  | error e => simp [bind, Except.bind]
  | ok a => simp [bind, Except.bind]

/-- What the caller gets by an outcome that is no rejection and can be encoded. -/
inductive Outcome.Does : Outcome → ClientAction → Prop
  | reply (payload : Json) : Does (.reply (.ok payload)) (.reply payload)
  | forward (target : ForwardTarget) : Does (.forward target) (.forward target)
  | noReply : Does .noReply .noReply

theorem Outcome.Does.unique {outcome : Outcome} {action other : ClientAction}
    (h : outcome.Does action) (h' : outcome.Does other) : action = other := by
  cases h <;> cases h' <;> rfl

theorem SnapshotPolicy.isDue_iff {policy : SnapshotPolicy} {n : SequenceNumber} :
    policy.isDue n = true ↔
      ∃ threshold positive, policy = .every threshold positive ∧ threshold.toNat ∣ n.toNat := by
  cases policy with
  | never => simp
  | every threshold positive => simp [isDue_every_iff, positive]

namespace Effect

variable {S E : Type}

/-- The first event that cannot be encoded fails with this error. -/
inductive Unencodable (encode : E → Except EncodeError Json) : List E → EncodeError → Prop
  | here {event : E} {rest : List E} {e : EncodeError} (fails : encode event = .error e) :
      Unencodable encode (event :: rest) e
  | later {event : E} {rest : List E} {payload : Json} {e : EncodeError}
      (encodes : encode event = .ok payload) (later : Unencodable encode rest e) :
      Unencodable encode (event :: rest) e

theorem Unencodable.unique {encode : E → Except EncodeError Json} {events : List E}
    {e other : EncodeError} (h : Unencodable encode events e)
    (h' : Unencodable encode events other) : e = other := by
  induction h with
  | here fails =>
      cases h' with
      | here fails' => exact Except.error.inj (fails.symm.trans fails')
      | later encodes => cases fails.symm.trans encodes
  | later encodes _ ih =>
      cases h' with
      | here fails => cases fails.symm.trans encodes
      | later _ later' => exact ih later'

section

variable (m : Mechanics S E) (effect : Effect S E) (state : S) (i : Interpretation)

/-- The state that the effect leads to, if it leads to a new one. -/
inductive LeadsTo : Option S → Prop
  | replaced {next : S} (replacement : effect.replacement = some next) : LeadsTo (some next)
  | folded {next : S} (unreplaced : effect.replacement = none) (emits : effect.events ≠ [])
      (folds : effect.events.foldlM m.apply state = .ok next) : LeadsTo (some next)
  | unchanged (unreplaced : effect.replacement = none) (silent : effect.events = []) :
      LeadsTo none

/-- A snapshot goes with the effect: the number of its last event is a multiple of the
threshold. -/
def IsPictured : Prop :=
  effect.events ≠ [] ∧ ∃ threshold positive, i.policy = .every threshold positive ∧
    threshold.toNat ∣ i.sequenceNumber.toNat + effect.events.length

/-- The effect has this flaw, which has this rank. -/
inductive Flaw : Nat → Defect → Prop
  | unanswered (deletes : effect.deletes = true) (silent : effect.outcome = .noReply) :
      Flaw 0 .deleteWithoutReply
  | rejecting {message : String} {code : Option ErrorCode} (deletes : effect.deletes = true)
      (rejects : effect.outcome = .error message code) : Flaw 1 .deleteOnError
  | replacing {requireEvents : Bool} {next : S} (accepts : effect.isError = false)
      (sourced : i.model = .eventSourced requireEvents)
      (replacement : effect.replacement = some next) : Flaw 2 .stateReplacement
  | idle (accepts : effect.isError = false) (required : i.model = .eventSourced true)
      (silent : effect.events = []) : Flaw 3 (.missingMutation i.operation)
  | emitting (accepts : effect.isError = false) (keyed : i.model = .keyValue)
      (emits : effect.events ≠ []) : Flaw 4 .eventsOnKeyValue
  | unspeakable {e : EncodeError} (fails : effect.outcome = .reply (.error e)) :
      Flaw 5 (.replyEncoding e)
  | unwritable {e : EncodeError} (accepts : effect.isError = false)
      (fails : Unencodable m.encodeEvent effect.events e) : Flaw 6 (.eventEncoding e)
  | unkeepable {next : S} {e : EncodeError} (accepts : effect.isError = false)
      (replacement : effect.replacement = some next)
      (fails : m.encodeState next = .error e) : Flaw 7 (.stateEncoding e)
  | inapplicable {crash : Crash} (accepts : effect.isError = false)
      (fails : effect.events.foldlM m.apply state = .error crash) : Flaw 8 .applyPanicked
  | unpicturable {next : S} {e : EncodeError} (accepts : effect.isError = false)
      (due : effect.IsPictured i) (leads : LeadsTo m effect state (some next))
      (fails : m.encodeState next = .error e) : Flaw 9 (.stateEncoding e)

/-- No flaw has a rank below `n`. -/
def ClearBelow (n : Nat) : Prop := ∀ rank < n, ∀ d, ¬ Flaw m effect state i rank d

/-- Of the flaws of the effect this one has the lowest rank. -/
def FirstFlaw (d : Defect) : Prop :=
  ∃ rank, Flaw m effect state i rank d ∧ ClearBelow m effect state i rank

def Flawless : Prop := ∀ rank d, ¬ Flaw m effect state i rank d

/-- The result does all that the effect asks for. -/
structure Fulfils (result : CommandResult S) : Prop where
  action : effect.outcome.Does result.clientAction
  numbers : result.events.map (fun record => record.sequenceNumber.toNat) =
    List.range' (i.sequenceNumber.toNat + 1) effect.events.length
  payloads : List.Forall₂ (fun event record => m.encodeEvent event = .ok record.payload)
    effect.events result.events
  last : result.endSequenceNumber.toNat = i.sequenceNumber.toNat + effect.events.length
  next : LeadsTo m effect state result.nextState
  update : Option.Rel (fun next json => m.encodeState next = .ok json) effect.replacement
    result.stateUpdate
  deletes : result.deletes = effect.deletes
  pictured : effect.IsPictured i → ∃ next json, result.nextState = some next ∧
    m.encodeState next = .ok json ∧ result.snapshot = some ⟨result.endSequenceNumber, json⟩
  unpictured : ¬ effect.IsPictured i → result.snapshot = none

/-- The effect has this result, unless it has a flaw. A rejection has nothing but its
error. -/
inductive Yields : CommandResult S → Prop
  | rejection {message : String} {code : Option ErrorCode}
      (rejects : effect.outcome = .error message code) :
      Yields ⟨[], .error message code, none, i.sequenceNumber, false, none, none⟩
  | result {result : CommandResult S} (fulfils : Fulfils m effect state i result) :
      Yields result

end

variable {m : Mechanics S E} {effect : Effect S E} {state : S} {i : Interpretation}

theorem LeadsTo.unique {next other : Option S} (h : LeadsTo m effect state next)
    (h' : LeadsTo m effect state other) : next = other := by
  cases h with
  | replaced replacement =>
      cases h' with
      | replaced replacement' => exact replacement.symm.trans replacement'
      | folded unreplaced => cases replacement.symm.trans unreplaced
      | unchanged unreplaced => cases replacement.symm.trans unreplaced
  | folded unreplaced emits folds =>
      cases h' with
      | replaced replacement => cases replacement.symm.trans unreplaced
      | folded _ _ folds' => exact congrArg some (Except.ok.inj (folds.symm.trans folds'))
      | unchanged _ silent => exact (emits silent).elim
  | unchanged unreplaced silent =>
      cases h' with
      | replaced replacement => cases replacement.symm.trans unreplaced
      | folded _ emits => exact (emits silent).elim
      | unchanged => rfl

theorem Flaw.unique {rank : Nat} {d other : Defect} (h : Flaw m effect state i rank d)
    (h' : Flaw m effect state i rank other) : d = other := by
  cases h with
  | unspeakable fails =>
      cases h' with
      | unspeakable fails' =>
          rw [fails] at fails'
          cases fails'
          rfl
  | unwritable _ fails =>
      cases h' with
      | unwritable _ fails' => rw [fails.unique fails']
  | unkeepable _ replacement fails =>
      cases h' with
      | unkeepable _ replacement' fails' =>
          cases replacement.symm.trans replacement'
          cases fails.symm.trans fails'
          rfl
  | unpicturable _ _ leads fails =>
      cases h' with
      | unpicturable _ _ leads' fails' =>
          cases leads.unique leads'
          cases fails.symm.trans fails'
          rfl
  | _ => cases h'; rfl

theorem FirstFlaw.unique {d other : Defect} (h : FirstFlaw m effect state i d)
    (h' : FirstFlaw m effect state i other) : d = other := by
  obtain ⟨rank, flaw, clear⟩ := h
  obtain ⟨rank', flaw', clear'⟩ := h'
  obtain lower | rfl | higher := Nat.lt_trichotomy rank rank'
  · exact (clear' rank lower d flaw).elim
  · exact flaw.unique flaw'
  · exact (clear rank' higher other flaw').elim

/-- Records with the same numbers and the payloads of the same events are the same. -/
theorem records_unique {events : List E} {records others : List EventRecord}
    (payloads : List.Forall₂ (fun event record => m.encodeEvent event = .ok record.payload)
      events records)
    (payloads' : List.Forall₂ (fun event record => m.encodeEvent event = .ok record.payload)
      events others)
    (numbers : records.map (fun record => record.sequenceNumber.toNat) =
      others.map (fun record => record.sequenceNumber.toNat)) : records = others := by
  induction payloads generalizing others with
  | nil => cases payloads'; rfl
  | @cons event record events records encodes _ ih =>
      cases payloads' with
      | @cons _ other _ others encodes' rest' =>
          simp only [List.map_cons, List.cons.injEq, UInt64.toNat_inj] at numbers
          have payload : record.payload = other.payload :=
            Except.ok.inj (encodes.symm.trans encodes')
          obtain ⟨number, payload'⟩ := record
          obtain ⟨number', payload''⟩ := other
          obtain rfl : payload' = payload'' := payload
          obtain ⟨rfl, numbers⟩ := numbers
          rw [ih rest' numbers]

theorem Fulfils.unique {result other : CommandResult S} (h : Fulfils m effect state i result)
    (h' : Fulfils m effect state i other) : result = other := by
  have records := records_unique h.payloads h'.payloads (h.numbers.trans h'.numbers.symm)
  have action := h.action.unique h'.action
  have last := UInt64.toNat_inj.mp (h.last.trans h'.last.symm)
  have deletes := h.deletes.trans h'.deletes.symm
  have next := h.next.unique h'.next
  have update : result.stateUpdate = other.stateUpdate := by
    have rel := h.update
    have rel' := h'.update
    generalize effect.replacement = replacement at rel rel'
    generalize result.stateUpdate = update at *
    generalize other.stateUpdate = update' at *
    cases rel with
    | none => cases rel'; rfl
    | some encodes =>
        cases rel' with
        | some encodes' => exact congrArg some (Except.ok.inj (encodes.symm.trans encodes'))
  have snapshot : result.snapshot = other.snapshot := by
    by_cases due : effect.IsPictured i
    · obtain ⟨after, json, here, encodes, taken⟩ := h.pictured due
      obtain ⟨after', json', here', encodes', taken'⟩ := h'.pictured due
      rw [next, here'] at here
      cases here
      cases encodes.symm.trans encodes'
      rw [taken, taken', last]
    · rw [h.unpictured due, h'.unpictured due]
  obtain ⟨⟩ := result
  obtain ⟨⟩ := other
  simp only at records action snapshot last deletes update next
  subst records action snapshot last deletes update next
  rfl

theorem Yields.unique {result other : CommandResult S} (h : Yields m effect state i result)
    (h' : Yields m effect state i other) : result = other := by
  have separate {message : String} {code : Option ErrorCode}
      (rejects : effect.outcome = .error message code) {r : CommandResult S}
      (fulfils : Fulfils m effect state i r) : False := by
    have action := fulfils.action
    rw [rejects] at action
    cases action
  cases h with
  | rejection rejects =>
      cases h' with
      | rejection rejects' =>
          cases rejects.symm.trans rejects'
          rfl
      | result fulfils => exact (separate rejects fulfils).elim
  | result fulfils =>
      cases h' with
      | rejection rejects => exact (separate rejects fulfils).elim
      | result fulfils' => exact fulfils.unique fulfils'

theorem ClearBelow.succ {n : Nat} (clear : ClearBelow m effect state i n)
    (none : ∀ d, ¬ Flaw m effect state i n d) : ClearBelow m effect state i (n + 1) := by
  intro rank lower d
  obtain lower | rfl := Nat.lt_succ_iff_lt_or_eq.mp lower
  · exact clear rank lower d
  · exact none d

theorem ClearBelow.flawless (clear : ClearBelow m effect state i 10) :
    Flawless m effect state i := by
  intro rank d flaw
  refine clear rank ?_ d flaw
  cases flaw <;> decide

/-- What comes of a part of the interpretation: the flaw of the lowest rank, or something
good, and then no flaw has a rank below `n`. -/
inductive Passes (m : Mechanics S E) (effect : Effect S E) (state : S) (i : Interpretation)
    (n : Nat) {α : Type} (good : α → Prop) : Except Defect α → Prop
  | passed {a : α} (clear : ClearBelow m effect state i n) (holds : good a) :
      Passes m effect state i n good (.ok a)
  | failed {d : Defect} (first : FirstFlaw m effect state i d) :
      Passes m effect state i n good (.error d)

theorem Passes.bind {n k : Nat} {α β : Type} {good : α → Prop} {better : β → Prop}
    {x : Except Defect α} {f : α → Except Defect β} (h : Passes m effect state i n good x)
    (next : ∀ a, ClearBelow m effect state i n → good a →
      Passes m effect state i k better (f a)) :
    Passes m effect state i k better (x >>= f) := by
  cases h with
  | passed clear holds => exact next _ clear holds
  | failed first => exact .failed first

theorem clearBelow_zero : ClearBelow m effect state i 0 :=
  fun _ lower => (Nat.not_lt_zero _ lower).elim

theorem checkDeletion_passes :
    Passes m effect state i 2 (fun _ => True) (checkDeletion effect) := by
  cases deletes : effect.deletes with
  | false =>
      simp only [checkDeletion, deletes]
      refine .passed ((clearBelow_zero.succ ?_).succ ?_) trivial
      · rintro d ⟨deleted⟩
        exact Bool.false_ne_true (deletes.symm.trans deleted)
      · intro d flaw
        cases flaw with
        | rejecting deleted => exact Bool.false_ne_true (deletes.symm.trans deleted)
  | true =>
      have answered (speaks : effect.outcome ≠ .noReply) : ClearBelow m effect state i 1 := by
        refine clearBelow_zero.succ ?_
        rintro d ⟨-, silent⟩
        exact speaks silent
      have accepted (accepts : effect.isError = false) (speaks : effect.outcome ≠ .noReply) :
          ClearBelow m effect state i 2 := by
        refine (answered speaks).succ ?_
        intro d flaw
        cases flaw with
        | rejecting _ rejects => simp [isError, rejects] at accepts
      cases outcome : effect.outcome with
      | noReply =>
          simp only [checkDeletion, deletes, outcome]
          exact .failed ⟨0, .unanswered deletes outcome, clearBelow_zero⟩
      | error message code =>
          simp only [checkDeletion, deletes, outcome]
          exact .failed ⟨1, .rejecting deletes outcome, answered (by simp [outcome])⟩
      | reply payload =>
          simp only [checkDeletion, deletes, outcome]
          exact .passed (accepted (by rw [isError, outcome]) (by simp [outcome])) trivial
      | forward target =>
          simp only [checkDeletion, deletes, outcome]
          exact .passed (accepted (by rw [isError, outcome]) (by simp [outcome])) trivial

/-- What the model of the entity allows: a replacement only without events. -/
theorem checkModel_passes (accepts : effect.isError = false)
    (clear : ClearBelow m effect state i 2) :
    Passes m effect state i 5 (fun _ => effect.replacement = none ∨ effect.events = [])
      (checkModel effect i) := by
  cases model : i.model with
  | eventSourced requireEvents =>
      cases replacement : effect.replacement with
      | some next =>
          simp only [checkModel, model, replacement, Option.isSome_some, if_true]
          exact .failed ⟨2, .replacing accepts model replacement, clear⟩
      | none =>
          have clear : ClearBelow m effect state i 3 := by
            refine clear.succ ?_
            intro d flaw
            cases flaw with
            | replacing _ _ replaced => cases replacement.symm.trans replaced
          by_cases idle : requireEvents = true ∧ effect.events = []
          · obtain ⟨rfl, silent⟩ := idle
            simp only [checkModel, model, replacement, silent]
            exact .failed ⟨3, .idle accepts model silent, clear⟩
          · have allowed : (requireEvents && effect.events.isEmpty) = false := by
              rw [Bool.eq_false_iff, ne_eq, Bool.and_eq_true, List.isEmpty_iff]
              exact idle
            simp only [checkModel, model, replacement, allowed]
            refine .passed ((clear.succ ?_).succ ?_) (.inl trivial)
            · intro d flaw
              cases flaw with
              | idle _ required silent =>
                  cases model.symm.trans required
                  exact idle ⟨rfl, silent⟩
            · intro d flaw
              cases flaw with
              | emitting _ keyed => cases model.symm.trans keyed
  | keyValue =>
      have clear : ClearBelow m effect state i 4 := by
        refine (clear.succ ?_).succ ?_
        · intro d flaw
          cases flaw with
          | replacing _ sourced => cases model.symm.trans sourced
        · intro d flaw
          cases flaw with
          | idle _ required => cases model.symm.trans required
      cases events : effect.events with
      | nil =>
          simp only [checkModel, model, events, List.isEmpty_nil, if_true]
          refine .passed (clear.succ ?_) (.inr trivial)
          intro d flaw
          cases flaw with
          | emitting _ _ emits => exact emits events
      | cons event rest =>
          simp only [checkModel, model, events]
          exact .failed ⟨4, .emitting accepts model (by simp [events]), clear⟩

theorem reply_passes {payload : Except EncodeError Json}
    (outcome : effect.outcome = .reply payload) (clear : ClearBelow m effect state i 5) :
    Passes m effect state i 6 (fun json => effect.outcome.Does (.reply json))
      (payload.mapError .replyEncoding) := by
  cases payload with
  | error e => exact .failed ⟨5, .unspeakable outcome, clear⟩
  | ok json =>
      refine .passed (clear.succ ?_) (by rw [outcome]; exact .reply json)
      intro d flaw
      cases flaw with
      | unspeakable fails => cases outcome.symm.trans fails

theorem clearBelow_six (clear : ClearBelow m effect state i 5)
    (spoken : ∀ payload, effect.outcome ≠ .reply payload) : ClearBelow m effect state i 6 := by
  refine clear.succ ?_
  intro d flaw
  cases flaw with
  | unspeakable fails => exact spoken _ fails

theorem not_unencodable_of_records {encode : E → Except EncodeError Json}
    {last : SequenceNumber} {events : List E} {all : List EventRecord}
    (h : records encode last events = .ok all) (e : EncodeError) :
    ¬ Unencodable encode events e := by
  intro fails
  induction fails generalizing last all with
  | here fails =>
      obtain ⟨payload, later, encodes, -, -⟩ := records_cons h
      cases encodes.symm.trans fails
  | later _ _ ih =>
      obtain ⟨payload, later, -, rested, -⟩ := records_cons h
      exact ih rested

theorem unencodable_of_records {encode : E → Except EncodeError Json} {last : SequenceNumber}
    {events : List E} {e : EncodeError} (h : records encode last events = .error e) :
    Unencodable encode events e := by
  induction events generalizing last with
  | nil => cases h
  | cons event rest ih =>
      simp only [records, bind_eq_error] at h
      obtain fails | ⟨payload, encodes, fails | ⟨later, -, done⟩⟩ := h
      · exact .here fails
      · exact .later encodes (ih fails)
      · cases done

theorem records_passes (accepts : effect.isError = false) (clear : ClearBelow m effect state i 6) :
    Passes m effect state i 7
      (fun all => records m.encodeEvent i.sequenceNumber effect.events = .ok all)
      ((records m.encodeEvent i.sequenceNumber effect.events).mapError .eventEncoding) := by
  cases recorded : records m.encodeEvent i.sequenceNumber effect.events with
  | error e => exact .failed ⟨6, .unwritable accepts (unencodable_of_records recorded), clear⟩
  | ok all =>
      refine .passed (clear.succ ?_) rfl
      intro d flaw
      cases flaw with
      | unwritable _ fails => exact not_unencodable_of_records recorded _ fails

theorem nextState_passes (accepts : effect.isError = false)
    (modelled : effect.replacement = none ∨ effect.events = [])
    (clear : ClearBelow m effect state i 7) :
    Passes m effect state i 9
      (fun after => LeadsTo m effect state after.1 ∧
        Option.Rel (fun next json => m.encodeState next = .ok json) effect.replacement after.2)
      (nextState m effect state) := by
  cases replacement : effect.replacement with
  | some next =>
      have silent : effect.events = [] := by
        obtain unreplaced | silent := modelled
        · cases replacement.symm.trans unreplaced
        · exact silent
      cases encoded : m.encodeState next with
      | error e =>
          simp only [nextState, replacement, encoded]
          exact .failed ⟨7, .unkeepable accepts replacement encoded, clear⟩
      | ok json =>
          simp only [nextState, replacement, encoded]
          refine .passed ((clear.succ ?_).succ ?_) ⟨.replaced replacement, .some encoded⟩
          · intro d flaw
            cases flaw with
            | unkeepable _ replaced fails =>
                cases replacement.symm.trans replaced
                cases encoded.symm.trans fails
          · intro d flaw
            cases flaw with
            | inapplicable _ fails =>
                rw [silent] at fails
                cases fails
  | none =>
      have clear : ClearBelow m effect state i 8 := by
        refine clear.succ ?_
        intro d flaw
        cases flaw with
        | unkeepable _ replaced => cases replacement.symm.trans replaced
      cases folded : effect.events.foldlM m.apply state with
      | error crash =>
          have emits : effect.events.isEmpty = false := by
            cases events : effect.events with
            | nil => rw [events] at folded; cases folded
            | cons event rest => rfl
          simp only [nextState, replacement, folded, emits]
          exact .failed ⟨8, .inapplicable accepts folded, clear⟩
      | ok next =>
          have clear : ClearBelow m effect state i 9 := by
            refine clear.succ ?_
            intro d flaw
            cases flaw with
            | inapplicable _ fails => cases folded.symm.trans fails
          cases events : effect.events with
          | nil =>
              simp only [nextState, replacement, events]
              exact .passed clear ⟨.unchanged replacement events, .none⟩
          | cons event rest =>
              have emits : effect.events ≠ [] := by simp [events]
              simp only [nextState, replacement, folded, List.isEmpty_iff, emits, if_false]
              exact .passed clear ⟨.folded replacement emits folded, .none⟩

theorem isPictured_iff {last : SequenceNumber}
    (reached : last.toNat = i.sequenceNumber.toNat + effect.events.length) :
    effect.IsPictured i ↔ (!effect.events.isEmpty && i.policy.isDue last) = true := by
  rw [IsPictured, Bool.and_eq_true, SnapshotPolicy.isDue_iff, reached, Bool.not_eq_true',
    Bool.eq_false_iff, ne_eq, ne_eq, List.isEmpty_iff]

theorem snapshot?_passes {last : SequenceNumber} {next : Option S}
    (accepts : effect.isError = false)
    (reached : last.toNat = i.sequenceNumber.toNat + effect.events.length)
    (leads : LeadsTo m effect state next) (clear : ClearBelow m effect state i 9) :
    Passes m effect state i 10
      (fun snapshot => (effect.IsPictured i → ∃ after json, next = some after ∧
          m.encodeState after = .ok json ∧ snapshot = some ⟨last, json⟩) ∧
        (¬ effect.IsPictured i → snapshot = none))
      (snapshot? m effect i.policy last next) := by
  by_cases due : effect.IsPictured i
  · have taken := (isPictured_iff reached).mp due
    cases next with
    | none =>
        cases leads with
        | unchanged _ silent => exact (due.1 silent).elim
    | some after =>
        cases encoded : m.encodeState after with
        | error e =>
            simp only [snapshot?, taken, if_true, encoded]
            exact .failed ⟨9, .unpicturable accepts due leads encoded, clear⟩
        | ok json =>
            simp only [snapshot?, taken, if_true, encoded]
            refine .passed (clear.succ ?_)
              ⟨fun _ => ⟨after, json, rfl, encoded, rfl⟩, fun undue => (undue due).elim⟩
            intro d flaw
            cases flaw with
            | unpicturable _ _ leads' fails =>
                cases leads.unique leads'
                cases encoded.symm.trans fails
  · have untaken : (!effect.events.isEmpty && i.policy.isDue last) = false :=
      Bool.eq_false_iff.mpr fun taken => due ((isPictured_iff reached).mpr taken)
    have clear : ClearBelow m effect state i 10 := by
      refine clear.succ ?_
      intro d flaw
      cases flaw with
      | unpicturable _ due' => exact due due'
    have plain : snapshot? m effect i.policy last next = .ok none := by
      cases next with
      | none => rfl
      | some after => simp only [snapshot?, untaken]; rfl
    rw [plain]
    exact .passed clear ⟨fun due' => (due due').elim, fun _ => rfl⟩

theorem carryOut_passes {action : ClientAction} (accepts : effect.isError = false)
    (does : effect.outcome.Does action)
    (modelled : effect.replacement = none ∨ effect.events = [])
    (bounded : i.sequenceNumber.toNat + effect.events.length < 2 ^ 64)
    (clear : ClearBelow m effect state i 6) :
    Passes m effect state i 10 (Yields m effect state i) (carryOut m effect state i action) := by
  refine (records_passes accepts clear).bind fun events clear encoded => ?_
  have payloads := (forall₂_of_records encoded).flip
  have length := payloads.length_eq
  have reached : (i.sequenceNumber + UInt64.ofNat events.length).toNat =
      i.sequenceNumber.toNat + effect.events.length := by
    rw [← length, toNat_add_ofNat bounded]
  have numbers := (numbered_of_records encoded).map_toNat (by omega)
  rw [← length] at numbers
  refine (nextState_passes accepts modelled clear).bind ?_
  rintro ⟨next, update⟩ clear ⟨leads, updates⟩
  refine (snapshot?_passes accepts reached leads clear).bind ?_
  rintro snapshot clear ⟨pictured, unpictured⟩
  exact .passed clear (.result {
    action := does
    numbers
    payloads
    last := reached
    next := leads
    update := updates
    deletes := rfl
    pictured
    unpictured })

/-- A rejection has the flaws of its deletion only. -/
theorem clearBelow_of_error {message : String} {code : Option ErrorCode}
    (rejects : effect.outcome = .error message code) (clear : ClearBelow m effect state i 2) :
    ClearBelow m effect state i 10 := by
  have error : effect.isError = true := by rw [isError, rejects]
  intro rank _ d flaw
  cases flaw with
  | unanswered deletes silent => exact clear 0 (by decide) _ (.unanswered deletes silent)
  | rejecting deletes rejects => exact clear 1 (by decide) _ (.rejecting deletes rejects)
  | unspeakable fails => cases rejects.symm.trans fails
  | _ => simp_all

theorem interpret_passes
    (bounded : i.sequenceNumber.toNat + effect.events.length < 2 ^ 64) :
    Passes m effect state i 10 (Yields m effect state i) (effect.interpret m state i) := by
  refine checkDeletion_passes.bind fun _ clear _ => ?_
  cases outcome : effect.outcome with
  | error message code =>
      exact .passed (clearBelow_of_error outcome clear) (.rejection outcome)
  | reply payload =>
      have accepts : effect.isError = false := by rw [isError, outcome]
      refine (checkModel_passes accepts clear).bind fun _ clear modelled => ?_
      refine (reply_passes outcome clear).bind fun json clear does => ?_
      exact carryOut_passes accepts does modelled bounded clear
  | forward target =>
      have accepts : effect.isError = false := by rw [isError, outcome]
      refine (checkModel_passes accepts clear).bind fun _ clear modelled => ?_
      have clear := clearBelow_six clear (by simp [outcome])
      exact carryOut_passes accepts (by rw [outcome]; exact .forward target) modelled bounded clear
  | noReply =>
      have accepts : effect.isError = false := by rw [isError, outcome]
      refine (checkModel_passes accepts clear).bind fun _ clear modelled => ?_
      have clear := clearBelow_six clear (by simp [outcome])
      exact carryOut_passes accepts (by rw [outcome]; exact .noReply) modelled bounded clear

/-- An effect is interpreted as the reference says. It fails with its flaw of the lowest
rank, and without a flaw it has its one result. -/
theorem interpret_iff
    (bounded : i.sequenceNumber.toNat + effect.events.length < 2 ^ 64) :
    (∀ d, effect.interpret m state i = .error d ↔ FirstFlaw m effect state i d) ∧
      ∀ result, effect.interpret m state i = .ok result ↔
        Flawless m effect state i ∧ Yields m effect state i result := by
  have passes : Passes m effect state i 10 (Yields m effect state i)
      (effect.interpret m state i) := interpret_passes bounded
  generalize effect.interpret m state i = interpreted at passes
  cases passes with
  | passed clear yields =>
      have flawless := clear.flawless
      constructor
      · intro d
        refine ⟨fun h => (by cases h), ?_⟩
        rintro ⟨rank, flaw, -⟩
        exact (flawless rank d flaw).elim
      · intro result
        refine ⟨?_, fun ⟨_, yields'⟩ => by rw [yields.unique yields']⟩
        rintro ⟨⟩
        exact ⟨flawless, yields⟩
  | failed first =>
      constructor
      · intro d
        refine ⟨?_, fun first' => by rw [first.unique first']⟩
        rintro ⟨⟩
        exact first
      · intro result
        refine ⟨fun h => (by cases h), ?_⟩
        rintro ⟨flawless, -⟩
        obtain ⟨rank, flaw, -⟩ := first
        exact (flawless rank _ flaw).elim

/-- A counter at ten after four events takes two more: they are numbered five and six, and
the snapshot after every third event shows fifteen. Where states are replaced as a whole,
the events count before a reply that does not encode. -/
theorem interpret_iff_counter :
    let m := Samples.Counter.entity.mechanics
    let state : Samples.Counter := ⟨10⟩
    let events : List Samples.CounterEvent := [.increased 2, .increased 3]
    let sourced : Interpretation := ⟨"add", .eventSourced true, .every 3 (by decide), 4⟩
    let keyed : Interpretation := { sourced with model := .keyValue }
    let effect : Effect Samples.Counter Samples.CounterEvent :=
      (persist events).thenReply (.ok (.int 15))
    let unwritable : EncodeError := ⟨"key must be a string"⟩
    let mute := effect.thenReply (.error unwritable)
    let result : CommandResult Samples.Counter :=
      { events := [⟨5, Samples.CounterEvent.toJson (.increased 2)⟩,
          ⟨6, Samples.CounterEvent.toJson (.increased 3)⟩]
        clientAction := .reply (.int 15)
        snapshot := some ⟨6, Samples.Counter.toJson ⟨15⟩⟩
        endSequenceNumber := 6
        deletes := false
        stateUpdate := none
        nextState := some ⟨15⟩ }
    sourced.sequenceNumber.toNat + effect.events.length < 2 ^ 64 ∧
      (Flawless m effect state sourced ∧ Yields m effect state sourced result) ∧
      FirstFlaw m mute state sourced (.replyEncoding unwritable) ∧
      FirstFlaw m mute state keyed .eventsOnKeyValue := by
  exact ⟨by decide, ((interpret_iff (by decide)).2 _).mp rfl,
    ((interpret_iff (by decide)).1 _).mp rfl, ((interpret_iff (by decide)).1 _).mp rfl⟩

end Effect

end EntityEngine
