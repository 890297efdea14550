import Mathlib.Algebra.Group.Nat.Defs
import Mathlib.Data.List.Forall2
import EntityEngine.Effect

/-!
# What an interpretation can come to

An effect that is interpreted without a defect is either a rejection, whose result is
empty, or it is carried out. In the second case its events are numbered on from the
last event of the log, and the next state is the replacement or the fold of the events.
-/

namespace EntityEngine

theorem bind_eq_ok {ε α β : Type} {x : Except ε α} {f : α → Except ε β} {b : β} :
    (x >>= f) = .ok b ↔ ∃ a, x = .ok a ∧ f a = .ok b := by
  cases x with
  | error e => simp [bind, Except.bind]
  | ok a => simp [bind, Except.bind]

theorem mapError_eq_ok {ε δ α : Type} {x : Except ε α} {f : ε → δ} {a : α} :
    x.mapError f = .ok a ↔ x = .ok a := by
  cases x <;> simp [Except.mapError]

theorem foldlM_append_ok {α β ε : Type} {f : β → α → Except ε β} {xs ys : List α} {b c d : β}
    (first : xs.foldlM f b = .ok c) (second : ys.foldlM f c = .ok d) :
    (xs ++ ys).foldlM f b = .ok d := by
  rw [List.foldlM_append, bind_eq_ok]
  exact ⟨c, first, second⟩

/-- The records carry the numbers after `last` without gap or repetition. -/
def Numbered : (last : SequenceNumber) → List EventRecord → Prop
  | _, [] => True
  | last, record :: rest => record.sequenceNumber = last + 1 ∧ Numbered (last + 1) rest

theorem add_ofNat_succ (last : SequenceNumber) (n : Nat) :
    last + UInt64.ofNat (n + 1) = last + 1 + UInt64.ofNat n := by
  rw [UInt64.ofNat_add, UInt64.add_comm (UInt64.ofNat n), ← UInt64.add_assoc]
  rfl

theorem toNat_add_ofNat {last : SequenceNumber} {n : Nat} (bounded : last.toNat + n < 2 ^ 64) :
    (last + UInt64.ofNat n).toNat = last.toNat + n := by
  rw [UInt64.toNat_add, UInt64.toNat_ofNat']
  omega

theorem toNat_add_one {last : SequenceNumber} (bounded : last.toNat + 1 < 2 ^ 64) :
    (last + 1).toNat = last.toNat + 1 :=
  toNat_add_ofNat bounded

theorem numbered_append {last : SequenceNumber} {xs ys : List EventRecord} :
    Numbered last (xs ++ ys) ↔
      Numbered last xs ∧ Numbered (last + UInt64.ofNat xs.length) ys := by
  induction xs generalizing last with
  | nil => simp [Numbered]
  | cons x xs ih =>
      simp only [List.cons_append, Numbered, ih, List.length_cons, add_ofNat_succ, and_assoc]

/-- While the numbers stay below `2 ^ 64` they are those of a range of naturals. -/
theorem Numbered.map_toNat {last : SequenceNumber} {xs : List EventRecord}
    (h : Numbered last xs) (bounded : last.toNat + xs.length < 2 ^ 64) :
    xs.map (fun record => record.sequenceNumber.toNat) =
      List.range' (last.toNat + 1) xs.length := by
  induction xs generalizing last with
  | nil => rfl
  | cons x xs ih =>
      obtain ⟨head, tail⟩ := h
      simp only [List.length_cons] at bounded
      have next := @toNat_add_one last (by omega)
      simp only [List.map_cons, List.length_cons, List.range'_succ, head, next]
      rw [ih tail (by omega), next]

namespace Effect

variable {S E : Type} {m : Mechanics S E} {effect : Effect S E} {state : S} {i : Interpretation}

theorem records_cons {encode : E → Except EncodeError Json} {last : SequenceNumber} {event : E}
    {rest : List E} {all : List EventRecord}
    (h : records encode last (event :: rest) = .ok all) :
    ∃ payload later, encode event = .ok payload ∧ records encode (last + 1) rest = .ok later ∧
      all = ⟨last + 1, payload⟩ :: later := by
  simp only [records, bind_eq_ok] at h
  obtain ⟨payload, encoded, later, rested, done⟩ := h
  cases done
  exact ⟨payload, later, encoded, rested, rfl⟩

theorem numbered_of_records {encode : E → Except EncodeError Json} {last : SequenceNumber}
    {events : List E} {all : List EventRecord} (h : records encode last events = .ok all) :
    Numbered last all := by
  induction events generalizing last all with
  | nil =>
      cases h
      trivial
  | cons event rest ih =>
      obtain ⟨payload, later, -, rested, rfl⟩ := records_cons h
      exact ⟨rfl, ih rested⟩

theorem forall₂_of_records {encode : E → Except EncodeError Json} {last : SequenceNumber}
    {events : List E} {all : List EventRecord} (h : records encode last events = .ok all) :
    List.Forall₂ (fun record event => encode event = .ok record.payload) all events := by
  induction events generalizing last all with
  | nil =>
      cases h
      exact .nil
  | cons event rest ih =>
      obtain ⟨payload, later, encoded, rested, rfl⟩ := records_cons h
      exact .cons encoded (ih rested)

/-- The results that an effect can have. -/
inductive Interpreted (m : Mechanics S E) (effect : Effect S E) (state : S)
    (i : Interpretation) : CommandResult S → Prop
  | rejected {message : String} {code : Option ErrorCode} (kept : effect.deletes = false)
      (outcome : effect.outcome = .error message code) :
      Interpreted m effect state i (rejection i message code)
  | carried {action : ClientAction} {events : List EventRecord} {next : Option S}
      {update : Option Json} {snapshot : Option Snapshot} (accepted : action.isError = false)
      (unrejected : effect.isError = false) (model : checkModel effect i = .ok ())
      (encoded : records m.encodeEvent i.sequenceNumber effect.events = .ok events)
      (changed : nextState m effect state = .ok (next, update))
      (taken : snapshot? m effect i.policy (i.sequenceNumber + UInt64.ofNat events.length) next =
        .ok snapshot) :
      Interpreted m effect state i
        ⟨events, action, snapshot, i.sequenceNumber + UInt64.ofNat events.length, effect.deletes,
          update, next⟩

theorem interpreted_of_carryOut {action : ClientAction} {result : CommandResult S}
    (accepted : action.isError = false) (unrejected : effect.isError = false)
    (model : checkModel effect i = .ok ()) (h : carryOut m effect state i action = .ok result) :
    Interpreted m effect state i result := by
  simp only [carryOut, bind_eq_ok, mapError_eq_ok] at h
  obtain ⟨events, encoded, ⟨next, update⟩, changed, snapshot, taken, done⟩ := h
  cases done
  exact .carried accepted unrejected model encoded changed taken

theorem interpreted_of_ok {result : CommandResult S}
    (h : effect.interpret m state i = .ok result) : Interpreted m effect state i result := by
  simp only [interpret, bind_eq_ok] at h
  obtain ⟨⟨⟩, allowed, h⟩ := h
  cases outcome : effect.outcome with
  | error message code =>
      have kept : effect.deletes = false := by
        cases deletes : effect.deletes with
        | false => rfl
        | true => simp [checkDeletion, deletes, outcome] at allowed
      simp only [outcome] at h
      cases h
      exact .rejected kept outcome
  | reply payload =>
      simp only [outcome, bind_eq_ok] at h
      obtain ⟨⟨⟩, model, answer, -, h⟩ := h
      exact interpreted_of_carryOut rfl (by rw [isError, outcome]) model h
  | forward target =>
      simp only [outcome, bind_eq_ok] at h
      obtain ⟨⟨⟩, model, h⟩ := h
      exact interpreted_of_carryOut rfl (by rw [isError, outcome]) model h
  | noReply =>
      simp only [outcome, bind_eq_ok] at h
      obtain ⟨⟨⟩, model, h⟩ := h
      exact interpreted_of_carryOut rfl (by rw [isError, outcome]) model h

/-- A result that shows no events and no replacement comes from an effect that changes
nothing. -/
theorem Interpreted.unchanged {result : CommandResult S}
    (h : Interpreted m effect state i result)
    (idle : result.clientAction.isError = true ∨
      result.events = [] ∧ result.stateUpdate = none ∧ result.deletes = false) :
    result.events = [] ∧ result.nextState = none ∧ result.snapshot = none ∧
      result.deletes = false := by
  cases h with
  | rejected => exact ⟨rfl, rfl, rfl, rfl⟩
  | @carried _ events next update snapshot accepted _ _ encoded changed taken =>
      obtain error | ⟨none, unreplaced, kept⟩ := idle
      · rw [accepted] at error
        cases error
      · obtain rfl : events = [] := none
        obtain rfl : update = .none := unreplaced
        have silent : effect.events = [] :=
          List.forall₂_nil_left_iff.mp (forall₂_of_records encoded)
        have still : next = .none := by
          simp only [nextState, silent] at changed
          split at changed
          · split at changed <;> cases changed
          · cases changed
            rfl
        subst still
        cases taken
        exact ⟨rfl, rfl, rfl, kept⟩

theorem replacement_of_checkModel {requireEvents : Bool}
    (sourced : i.model = .eventSourced requireEvents) (h : checkModel effect i = .ok ()) :
    effect.replacement = none := by
  cases replacement : effect.replacement with
  | none => rfl
  | some state => simp [checkModel, sourced, replacement] at h

theorem foldlM_of_nextState {next : Option S} {update : Option Json}
    (unreplaced : effect.replacement = none)
    (h : nextState m effect state = .ok (next, update)) :
    update = none ∧ effect.events.foldlM m.apply state = .ok (next.getD state) := by
  simp only [nextState, unreplaced] at h
  split at h
  · next empty =>
      cases h
      rw [List.isEmpty_iff.mp empty]
      exact ⟨rfl, rfl⟩
  · cases folded : effect.events.foldlM m.apply state with
    | error crash => rw [folded] at h; cases h
    | ok after =>
        rw [folded] at h
        cases h
        exact ⟨rfl, rfl⟩

/-- A snapshot shows the next state, at the number of the last event. -/
theorem encodeState_of_snapshot? {policy : SnapshotPolicy} {last : SequenceNumber}
    {next : Option S} {snapshot : Snapshot}
    (h : snapshot? m effect policy last next = .ok (some snapshot)) (state : S) :
    snapshot.sequenceNumber = last ∧ m.encodeState (next.getD state) = .ok snapshot.state := by
  cases next with
  | none => cases h
  | some after =>
      simp only [snapshot?] at h
      split at h
      · cases encoded : m.encodeState after with
        | error e => rw [encoded] at h; cases h
        | ok json =>
            rw [encoded] at h
            cases h
            exact ⟨rfl, encoded⟩
      · cases h

end Effect

end EntityEngine
