import EntityEngine.Entity

/-!
# A counter

An event-sourced entity that counts in 64-bit integers. Adding beyond their range
panics, both in the handler and where an event is applied. The fragile counter is
the same but has no empty state to start from.
-/

namespace EntityEngine.Samples

structure Counter where
  value : Int64
deriving DecidableEq

inductive CounterEvent where
  | increased (value : Int64)
  | reset
deriving DecidableEq

namespace Counter

open Json

def toJson (c : Counter) : Json := .ofMembers [("value", .int c.value.toInt)]

/-- The one field of every record here. -/
def readValue (fields : Fields) : Except Fault Int64 := fields.decode 0 "value" decodeInt64

def decode (value : Json) : Except DecodeError Counter :=
  (decodeRecord "struct Counter" 1 readValue value).map Counter.mk

def decodeIncreaseBy : Json → Except DecodeError Int64 :=
  decodeRecord "struct IncreaseBy" 1 readValue

end Counter

namespace CounterEvent

open Json

def toJson : CounterEvent → Json
  | increased value =>
    .ofMembers [("type", .string "ValueIncreased"),
      ("data", .ofMembers [("value", .int value.toInt)])]
  | reset => .ofMembers [("type", .string "ValueReset")]

/-- The names of the events. -/
def names : List String := ["ValueIncreased", "ValueReset"]

/-- The name of an event: what stands next to a name must be `null`. -/
def decodeTag (tag : Json) : Except DecodeError String := do
  match ← decodeName names tag with
  | (name, none) => return name
  | (name, some beside) => do
    decodeUnit beside
    return name

/-- The name of an event given as first item of an array: a string. -/
def decodeFirst : Json → Except DecodeError String
  | .string name => knownName names name
  | tag => .error (.wrongType tag "variant identifier")

/-- The event of a name with its data. -/
def decodeData (name : String) (data : Json) : Except DecodeError CounterEvent :=
  if name = "ValueIncreased" then
    (decodeNamedRecord "struct variant CounterEvent::ValueIncreased" Counter.readValue
      data).map increased
  else
    match data with
    | .null => .ok reset
    | data => .error (.wrongType data "unit variant CounterEvent::ValueReset")

def wanted : String := "adjacently tagged enum CounterEvent"

/-- Read an event from an object with its name under `type` and its data under `data`,
or from an array of the two. A reset needs no data in an object. -/
def decode : Json → Except DecodeError CounterEvent
  | .object members =>
    match member? members "type", member? members "data" with
    | some tag, some data => do decodeData (← decodeTag tag) data
    | some tag, none => do
      if (← decodeTag tag) = "ValueReset" then return reset
      else .error (.missingField "data")
    | none, _ => .error (.missingField "type")
  | .array items =>
    match items with
    | [] => .error (.wrongLength 0 wanted)
    | tag :: rest => do
      let name ← decodeFirst tag
      match rest with
      | [] => .error (.wrongLength 1 wanted)
      | data :: surplus => do
        let event ← decodeData name data
        if surplus.isEmpty then return event
        else .error (.wrongLength items.length "fewer elements in array")
  | value => .error (.wrongType value wanted)

end CounterEvent

namespace Counter

open Json (decodeUnit)

/-- The sum, unless it leaves the range. -/
def add (a b : Int64) : Attempt Int64 :=
  let sum := a.toInt + b.toInt
  if -Int.pow 2 63 ≤ sum ∧ sum < Int.pow 2 63 then .ok (Int64.ofInt sum)
  else .error ⟨"counter overflow"⟩

def apply (c : Counter) : CounterEvent → Attempt Counter
  | .increased value => (add c.value value).map Counter.mk
  | .reset => .ok ⟨0⟩

abbrev Handling := Activity Unit Counter CounterEvent

/-- Persist one event and reply the sum. -/
def increaseBy (c : Counter) (_ : Context) (value : Int64) : Handling :=
  if value < 0 then
    .fail (.rejected "Increase requires a positive value" (some .invalidArgument))
  else
    match add c.value value with
    | .ok sum => .done ((Effect.persist [.increased value]).thenReply (.ok (toJson ⟨sum⟩)))
    | .error crash => .panicked crash

def router : Router Unit Counter CounterEvent :=
  Router.empty
    |>.on "increaseBy" decodeIncreaseBy increaseBy
    |>.on "adjust" decodeIncreaseBy (fun _ _ value =>
      .done ((Effect.persist [.increased value]).thenReply (.ok (.string "adjusted"))))
    |>.on "get" decodeUnit (fun c _ _ => .done (Effect.reply (.ok c.toJson)))
    |>.on "reset" decodeUnit (fun _ _ _ => .done (Effect.persist [.reset]))
    |>.on "delete" decodeUnit (fun _ _ _ =>
      .done (Effect.deleteEntity.thenReply (.ok (.string "deleted"))))
    |>.on "explode" decodeUnit (fun _ _ _ => .fail (.unexpected "backend down"))
    |>.on "panic" decodeUnit (fun _ _ _ => .panicked ⟨"handler panicked"⟩)

def entity : Entity where
  name := "counter"
  State := Counter
  Event := CounterEvent
  Memory := Unit
  memory := ()
  model := .eventSourced false
  states := ⟨fun c => .ok c.toJson, decode⟩
  events := ⟨fun e => .ok e.toJson, CounterEvent.decode⟩
  emptyState := .ok ⟨0⟩
  apply := apply
  router := router

/-- The counter whose empty state cannot be had. -/
def fragile : Entity :=
  { entity with name := "fragile", emptyState := .error ⟨"no empty state"⟩ }

end Counter

end EntityEngine.Samples
