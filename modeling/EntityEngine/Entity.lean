import EntityEngine.Activity
import EntityEngine.Text.Shown

/-!
# Entities

An entity type: its states and events with their JSON forms, how events act on
states, and a router from operation names to handlers. The engine owns the state of
every entity; handlers see copies and describe changes by their effects.
-/

namespace EntityEngine

structure Codec (α : Type) where
  encode : α → Except EncodeError Json
  decode : Json → Except DecodeError α

inductive Launch (M S E : Type) where
  /-- The payload is not what the handler takes. -/
  | refused (error : DecodeError)
  | running (activity : Activity M S E)
  /-- The handler crashed before it had begun its activity. -/
  | crashed (crash : Crash)

structure Registration (M S E : Type) where
  operation : String
  launch : S → Context → Json → Launch M S E

/-- The handlers of an entity type in the order of their registration. The last one
of a name is in force. -/
structure Router (M S E : Type) where
  registrations : List (Registration M S E)

namespace Router

variable {M S E : Type}

def empty : Router M S E := ⟨[]⟩

def register (r : Router M S E) (operation : String)
    (launch : S → Context → Json → Launch M S E) : Router M S E :=
  ⟨r.registrations ++ [⟨operation, launch⟩]⟩

/-- Register a handler for payloads that `decode` accepts. -/
def on {α : Type} (r : Router M S E) (operation : String) (decode : Json → Except DecodeError α)
    (handler : S → Context → α → Activity M S E) : Router M S E :=
  r.register operation fun state context payload =>
    match decode payload with
    | .ok command => .running (handler state context command)
    | .error e => .refused e

def handler? (r : Router M S E) (operation : String) : Option (Registration M S E) :=
  r.registrations.reverse.find? fun registration => registration.operation == operation

theorem handler?_register (r : Router M S E) (operation name : String)
    (launch : S → Context → Json → Launch M S E) :
    (r.register operation launch).handler? name =
      if operation = name then some ⟨operation, launch⟩ else r.handler? name := by
  by_cases h : operation = name <;> simp [register, handler?, h]

def contains (r : Router M S E) (operation : String) : Bool := (r.handler? operation).isSome

def operations (r : Router M S E) : List String :=
  (Dictionary.ofList (r.registrations.map fun registration =>
    (registration.operation, ()))).keys

def size (r : Router M S E) : Nat := r.operations.length

def isEmpty (r : Router M S E) : Bool := r.registrations.isEmpty

/-- The names that repeat an earlier one, in order of their registration. -/
def repeated : (seen names : List String) → List String
  | _, [] => []
  | seen, name :: rest =>
    if seen.contains name then name :: repeated seen rest else repeated (name :: seen) rest

def notices (r : Router M S E) : List Notice :=
  (repeated [] (r.registrations.map Registration.operation)).map .handlerReplaced

def shownText (r : Router M S E) : String :=
  Text.recordText "CommandRouter" [("operations", Text.listText (r.operations.map Text.quoted))]

end Router

structure Entity where
  name : String
  State : Type
  Event : Type
  /-- What the handlers of the entity type share between calls. -/
  Memory : Type
  memory : Memory
  model : StateModel
  states : Codec State
  events : Codec Event
  emptyState : Attempt State
  apply : State → Event → Attempt State
  router : Router Memory State Event

def Entity.mechanics (e : Entity) : Mechanics e.State e.Event :=
  ⟨e.states.encode, e.events.encode, e.apply⟩

/-- Call the handler of an operation; an absent payload counts as `null`. -/
def Entity.dispatch (e : Entity) (operation : String) (state : e.State) (context : Context)
    (payload : Option Json) :
    Except CommandError (Attempt (Activity e.Memory e.State e.Event)) :=
  match e.router.handler? operation with
  | none => .error (.unknownOperation operation)
  | some registration =>
    match registration.launch state context (payload.getD .null) with
    | .refused error => .error (.invalidPayload operation error)
    | .running activity => .ok (.ok activity)
    | .crashed crash => .ok (.error crash)

/-- What all channels of an entity type share: the memory of its handlers, the board
of contexts, and a supply of correlation ids of which some have been drawn. -/
structure Shared (M : Type) where
  memory : M
  board : Board
  supply : Nat → Uuid
  drawn : Nat

namespace Shared

variable {M : Type}

def draw (s : Shared M) : Uuid × Shared M := (s.supply s.drawn, { s with drawn := s.drawn + 1 })

end Shared

def Entity.share (e : Entity) (supply : Nat → Uuid) : Shared e.Memory :=
  ⟨e.memory, .empty, supply, 0⟩

end EntityEngine
