import Mathlib.Data.List.Induction
import EntityEngine.Proofs.Interpretation
import EntityEngine.Samples.Counter

/-!
# Effects built call by call

A handler begins an effect with one call and goes on with as many calls as it likes. Those
calls are of three kinds: they choose the outcome, add events, or delete the entity. What
a chain of calls comes to can be read off without building it: all events in order, the
replacement it began with, the last outcome that was chosen, and whether it ever deletes.

The main statement says what follows for the interpretation of a chain. Calls of different
kinds can change places, an outcome that is chosen anew was never there, and a chain that
ends as an error is a rejection or a defect, whatever else it holds.
-/

namespace EntityEngine.Effect

variable {S E : Type}

inductive Opening (S E : Type) where
  | reply (payload : Except EncodeError Json)
  | noReply
  | forward (target : ForwardTarget)
  | error (message : String)
  | errorWithCode (message : String) (code : ErrorCode)
  | persist (events : List E)
  | updateState (state : S)
  | deleteEntity

inductive Link (E : Type) where
  | thenReply (payload : Except EncodeError Json)
  | thenForward (target : ForwardTarget)
  | thenNoReply
  | andPersist (events : List E)
  | andDelete

def Opening.effect : Opening S E → Effect S E
  | .reply payload => .reply payload
  | .noReply => .noReply
  | .forward target => .forward target
  | .error message => .error message
  | .errorWithCode message code => .errorWithCode message code
  | .persist events => .persist events
  | .updateState state => .updateState state
  | .deleteEntity => .deleteEntity

def extend (effect : Effect S E) : Link E → Effect S E
  | .thenReply payload => effect.thenReply payload
  | .thenForward target => effect.thenForward target
  | .thenNoReply => effect.thenNoReply
  | .andPersist events => effect.andPersist events
  | .andDelete => effect.andDelete

/-- The effect of one call after the other. -/
def Opening.chain (first : Opening S E) (links : List (Link E)) : Effect S E :=
  links.foldl extend first.effect

namespace Opening

def events : Opening S E → List E
  | persist events => events
  | _ => []

def replacement : Opening S E → Option S
  | updateState state => some state
  | _ => none

def outcome : Opening S E → Outcome
  | reply payload => .reply payload
  | forward target => .forward target
  | error message => .error message none
  | errorWithCode message code => .error message (some code)
  | _ => .noReply

def deletes : Opening S E → Bool
  | deleteEntity => true
  | _ => false

/-- The call does nothing but choose an outcome. -/
def Answers (first : Opening S E) : Prop :=
  first.events = [] ∧ first.replacement = none ∧ first.deletes = false

end Opening

namespace Link

inductive Kind where
  | choosing
  | persisting
  | deleting
deriving DecidableEq

def kind : Link E → Kind
  | thenReply _ | thenForward _ | thenNoReply => .choosing
  | andPersist _ => .persisting
  | andDelete => .deleting

def outcome? : Link E → Option Outcome
  | thenReply payload => some (.reply payload)
  | thenForward target => some (.forward target)
  | thenNoReply => some .noReply
  | _ => none

def events : Link E → List E
  | andPersist events => events
  | _ => []

def deletes : Link E → Bool
  | andDelete => true
  | _ => false

/-- Calls of different kinds have changed places. -/
inductive Reordered : List (Link E) → List (Link E) → Prop
  | refl (links : List (Link E)) : Reordered links links
  | swap {a b : Link E} (before after : List (Link E)) (different : a.kind ≠ b.kind) :
      Reordered (before ++ a :: b :: after) (before ++ b :: a :: after)
  | trans {links middle last : List (Link E)} (first : Reordered links middle)
      (second : Reordered middle last) : Reordered links last

theorem isSome_outcome?_iff (link : Link E) :
    link.outcome?.isSome = true ↔ link.kind = .choosing := by
  cases link <;> simp [outcome?, kind]

end Link

/-- The last outcome that some calls choose, if they choose any. -/
def chosen? (links : List (Link E)) : Option Outcome := (links.filterMap Link.outcome?).getLast?

def Opening.whole (first : Opening S E) (links : List (Link E)) : Effect S E where
  events := first.events ++ links.flatMap Link.events
  replacement := first.replacement
  outcome := (chosen? links).getD first.outcome
  deletes := first.deletes || links.any Link.deletes

theorem chosen?_append (links later : List (Link E)) :
    chosen? (links ++ later) = (chosen? later).or (chosen? links) := by
  unfold chosen?
  rw [List.filterMap_append, List.getLast?_append]

theorem chosen?_cons (link : Link E) (links : List (Link E)) :
    chosen? (link :: links) = (chosen? links).or link.outcome? := by
  have single : chosen? [link] = link.outcome? := by
    cases chosen : link.outcome? <;> simp [chosen?, chosen]
  rw [← single, ← chosen?_append, List.singleton_append]

/-- Some calls choose an outcome as soon as one of them does. -/
theorem exists_chosen? {links : List (Link E)} (chooses : ∃ link ∈ links, link.kind = .choosing) :
    ∃ outcome, chosen? links = some outcome := by
  obtain ⟨link, member, choosing⟩ := chooses
  obtain ⟨outcome, same⟩ := Option.isSome_iff_exists.mp (link.isSome_outcome?_iff.mpr choosing)
  apply Option.ne_none_iff_exists'.mp
  simp only [chosen?, ne_eq, List.getLast?_eq_none_iff]
  exact List.ne_nil_of_mem (List.mem_filterMap.mpr ⟨link, member, same⟩)

/-- An outcome that is chosen by a call is no error. -/
theorem chosen?_ne_error {links : List (Link E)} {message : String} {code : Option ErrorCode} :
    chosen? links ≠ some (.error message code) := by
  intro chosen
  obtain ⟨link, -, same⟩ := List.mem_filterMap.mp (List.mem_of_getLast? chosen)
  cases link <;> cases same

namespace Opening

variable {first : Opening S E} {links before after : List (Link E)}

theorem effect_eq_whole (first : Opening S E) : first.effect = first.whole [] := by
  cases first with
  | persist given =>
      show (persist given).effect = ⟨given ++ [], none, .noReply, false⟩
      rw [List.append_nil]
      rfl
  | _ => rfl

theorem chain_eq_whole (first : Opening S E) (links : List (Link E)) :
    first.chain links = first.whole links := by
  induction links using List.reverseRecOn with
  | nil => exact effect_eq_whole first
  | append_singleton links link ih =>
      have last : first.chain (links ++ [link]) = (first.chain links).extend link :=
        List.foldl_concat ..
      rw [last, ih]
      simp only [whole, chosen?_append, List.flatMap_append, List.any_append]
      cases link <;> simp [extend, chosen?, Link.outcome?, Link.events, Link.deletes, thenReply,
        thenForward, thenNoReply, andPersist, andDelete]

theorem chain_append (first : Opening S E) (links later : List (Link E)) :
    first.chain (links ++ later) = later.foldl extend (first.chain links) :=
  List.foldl_append

end Opening

/-- Calls of different kinds do not see each other. -/
theorem extend_comm (effect : Effect S E) {a b : Link E} (different : a.kind ≠ b.kind) :
    (effect.extend a).extend b = (effect.extend b).extend a := by
  cases a <;> cases b <;> first | rfl | exact (different rfl).elim

theorem Link.Reordered.chain_eq {links other : List (Link E)} (reordered : Reordered links other)
    (first : Opening S E) : first.chain links = first.chain other := by
  induction reordered with
  | refl links => rfl
  | swap before after different =>
      simp only [Opening.chain_append, List.foldl_cons, extend_comm _ different]
  | trans _ _ ih ih' => exact ih.trans ih'

namespace Opening

variable {first : Opening S E} {links before after : List (Link E)}

/-- An outcome that is chosen anew later on leaves no trace. -/
theorem chain_overridden {link : Link E} (choosing : link.kind = .choosing)
    (later : ∃ link ∈ after, link.kind = .choosing) :
    first.chain (before ++ link :: after) = first.chain (before ++ after) := by
  obtain ⟨outcome, chosen⟩ := exists_chosen? later
  have silent : link.events = [] := by cases link <;> first | rfl | cases choosing
  have keeps : link.deletes = false := by cases link <;> first | rfl | cases choosing
  rw [chain_eq_whole, chain_eq_whole]
  simp [whole, chosen?_append, chosen?_cons, chosen, silent, keeps]

/-- The outcome that a chain begins with leaves no trace either. -/
theorem chain_of_answers (answers : first.Answers)
    (chooses : ∃ link ∈ links, link.kind = .choosing) :
    first.chain links = (noReply : Opening S E).chain links := by
  obtain ⟨silent, unreplaced, keeps⟩ := answers
  obtain ⟨outcome, chosen⟩ := exists_chosen? chooses
  rw [chain_eq_whole, chain_eq_whole]
  simp only [whole, chosen, silent, unreplaced, keeps]
  rfl

theorem isError_chain (chooses : ∃ link ∈ links, link.kind = .choosing) :
    (first.chain links).isError = false := by
  obtain ⟨outcome, chosen⟩ := exists_chosen? chooses
  rw [chain_eq_whole]
  cases outcome with
  | error message code => exact (chosen?_ne_error chosen).elim
  | _ => simp only [isError, whole, chosen, Option.getD_some]

end Opening

section

variable {m : Mechanics S E} {effect : Effect S E} {state : S} {i : Interpretation}

/-- An error is a rejection, unless it would delete the entity. -/
theorem interpret_of_error (m : Mechanics S E) (state : S) (i : Interpretation) {message : String}
    {code : Option ErrorCode} (outcome : effect.outcome = .error message code) :
    effect.interpret m state i =
      if effect.deletes then .error .deleteOnError else .ok (rejection i message code) := by
  cases deletes : effect.deletes <;> simp [interpret, checkDeletion, deletes, outcome]

theorem accepted_of_ok {result : CommandResult S} (unrejected : effect.isError = false)
    (h : effect.interpret m state i = .ok result) : result.clientAction.isError = false := by
  cases interpreted_of_ok h with
  | rejected kept outcome =>
      rw [isError, outcome] at unrejected
      cases unrejected
  | carried accepted => exact accepted

/-- A chain is interpreted as the effect that can be read off it, and as any chain that
differs in the order of calls of different kinds. An outcome that is chosen anew counts for
nothing, be it one that does not encode or an error at the beginning. A chain that ends as
an error changes nothing: it is a rejection, or a defect if it deletes. -/
theorem interpret_chain (m : Mechanics S E) (state : S) (i : Interpretation)
    (first : Opening S E) (links : List (Link E)) :
    let result := (first.chain links).interpret m state i
    result = (first.whole links).interpret m state i ∧
    (∀ other, Link.Reordered links other → (first.chain other).interpret m state i = result) ∧
    (∀ before link after, links = before ++ link :: after → link.kind = .choosing →
      (∃ later ∈ after, later.kind = .choosing) →
        (first.chain (before ++ after)).interpret m state i = result) ∧
    ((∃ link ∈ links, link.kind = .choosing) →
      (∀ r, result = .ok r → r.clientAction.isError = false) ∧
        (first.Answers →
          ((.noReply : Opening S E).chain links).interpret m state i = result)) ∧
    ∀ message code, (first.whole links).outcome = .error message code →
      result = (if (first.whole links).deletes then .error .deleteOnError
        else .ok (rejection i message code)) ∧
      ∀ r, result = .ok r → r.events = [] ∧ r.stateUpdate = none ∧ r.snapshot = none ∧
        r.deletes = false := by
  intro result
  have read : result = (first.whole links).interpret m state i := by
    rw [← Opening.chain_eq_whole]
  refine ⟨read, ?_, ?_, ?_, ?_⟩
  · intro other reordered
    rw [← reordered.chain_eq]
  · rintro before link after rfl choosing later
    rw [← Opening.chain_overridden choosing later]
  · intro chooses
    refine ⟨fun r ok => accepted_of_ok (Opening.isError_chain chooses) ok, fun answers => ?_⟩
    rw [← Opening.chain_of_answers answers chooses]
  · intro message code outcome
    have rejected := interpret_of_error m state i outcome
    rw [← read] at rejected
    refine ⟨rejected, fun r ok => ?_⟩
    rw [rejected] at ok
    split at ok
    · cases ok
    · cases ok
      exact ⟨rfl, rfl, rfl, rfl⟩

end

section

open Samples

/-- A refusal and a reply without a text are both overridden, and the event that is added in
between is emitted. Without an outcome after it the refusal stands. -/
theorem interpret_chain_counter :
    let m : Mechanics Counter CounterEvent := Counter.entity.mechanics
    let i : Interpretation := ⟨"adjust", .eventSourced true, .never, 4⟩
    let first : Opening Counter CounterEvent := .error "refused"
    let add : Link CounterEvent := .andPersist [.increased 2]
    let done : Link CounterEvent := .thenReply (.ok (.string "done"))
    let result : CommandResult Counter :=
      ⟨[⟨5, (CounterEvent.increased 2).toJson⟩], .reply (.string "done"), none, 5, false, none,
        some ⟨7⟩⟩
    ((.noReply : Opening Counter CounterEvent).chain [done, add]).interpret m ⟨5⟩ i = .ok result ∧
      (first.chain [.thenReply (.error ⟨"no text"⟩), add, done]).interpret m ⟨5⟩ i = .ok result ∧
      result.clientAction.isError = false ∧
      (first.chain [add]).interpret m ⟨5⟩ i = .ok (rejection i "refused" none) := by
  intro m i first add done result
  obtain ⟨-, reordered, -⟩ :=
    interpret_chain m ⟨5⟩ i (.noReply : Opening Counter CounterEvent) [add, done]
  obtain ⟨-, -, -, chosen, -⟩ := interpret_chain m ⟨5⟩ i first [add, done]
  obtain ⟨-, -, overridden, -⟩ :=
    interpret_chain m ⟨5⟩ i first [.thenReply (.error ⟨"no text"⟩), add, done]
  obtain ⟨-, -, -, -, rejected⟩ := interpret_chain m ⟨5⟩ i first [add]
  have plain : ((.noReply : Opening Counter CounterEvent).chain [done, add]).interpret m ⟨5⟩ i =
      .ok result := rfl
  have swapped := reordered [done, add] (.swap [] [] (by decide))
  obtain ⟨accepted, unrefused⟩ := chosen ⟨done, by simp, rfl⟩
  have unsaid := overridden [] _ [add, done] rfl rfl ⟨done, by simp, rfl⟩
  have answered := (unrefused ⟨rfl, rfl, rfl⟩).symm.trans (swapped.symm.trans plain)
  exact ⟨plain, unsaid.symm.trans answered, accepted result answered,
    (rejected "refused" none rfl).1⟩

end

end EntityEngine.Effect
