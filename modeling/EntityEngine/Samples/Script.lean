import EntityEngine.Entity
import EntityEngine.Message.Decode

/-!
# Scripted entities

Entities whose states and events are any JSON value and whose operation `do` takes a
script of what the handler shall do: wait, fail, keep its context for later, or
return an effect given call by call. A value that mentions `"!fail"` does not encode
and one that mentions `"!bad"` does not decode.
-/

namespace EntityEngine.Samples.Script

/-- The handlers may keep one context. -/
abbrev Stash := Option Context

abbrev Handling := Activity Stash Json Json

def encode (value : Json) : Except EncodeError Json :=
  if value.mentions "!fail" then .error ⟨"unencodable value"⟩ else .ok value

def decode (value : Json) : Except DecodeError Json :=
  if value.mentions "!bad" then .error (.refused "undecodable value") else .ok value

/-- `"boom"` panics, `"clear"` empties the state, an object with a key `set` gives the new
state, and any other event is appended. -/
def apply (state event : Json) : Attempt Json :=
  match event with
  | .string "boom" => .error ⟨"boom"⟩
  | .string "clear" => .ok (.array [])
  | event =>
    match event.get? "set", state with
    | some next, _ => .ok next
    | none, .array items => .ok (.array (items ++ [event]))
    | none, state => .ok (.array [state, event])

def forwardTarget? : Json → Option ForwardTarget
  | .object members => ForwardTarget.ofFields? (.named members)
  | _ => none

def startEffect (state : Json) : Json → Option (Effect Json Json)
  | .array [.string "reply", value] => some (.reply (encode value))
  | .array [.string "reply_state"] => some (.reply (encode state))
  | .array [.string "no_reply"] => some .noReply
  | .array [.string "forward", target] => (forwardTarget? target).map .forward
  | .array [.string "error", .string text] => some (.error text)
  | .array [.string "error_with_code", .string text, code] =>
    (ErrorCode.ofJson? .free code).map (.errorWithCode text)
  | .array [.string "persist", .array events] => some (.persist events)
  | .array [.string "update_state", next] => some (.updateState next)
  | .array [.string "delete_entity"] => some .deleteEntity
  | _ => none

/-- The effect after one more call. -/
def chainEffect (state : Json) (effect : Effect Json Json) : Json → Option (Effect Json Json)
  | .array [.string "then_reply", value] => some (effect.thenReply (encode value))
  | .array [.string "then_reply_state"] => some (effect.thenReply (encode state))
  | .array [.string "then_forward", target] =>
    (forwardTarget? target).map effect.thenForward
  | .array [.string "then_no_reply"] => some effect.thenNoReply
  | .array [.string "and_persist", .array events] => some (effect.andPersist events)
  | .array [.string "and_delete"] => some effect.andDelete
  | _ => none

def effect? (state : Json) : Json → Option (Effect Json Json)
  | .array (first :: rest) => do rest.foldlM (chainEffect state) (← startEffect state first)
  | _ => none

/-- End with what a context answers, or with its refusal. -/
def replyFrom (answer : Except ContextError Json) : Handling :=
  match answer with
  | .ok value => .done (Effect.reply (.ok value))
  | .error e => .fail (.context e)

/-- A context's trace context. -/
def traceparentJson (handle : TraceHandle) : Json :=
  (handle.traceparent.map Json.string).getD .null

def contextJson (context : Context) (board : Board) : Except ContextError Json := do
  return .ofMembers [
    ("entity_id", (← context.entityId? board).toJson),
    ("sequence_number", .word (← context.sequenceNumber? board)),
    ("operation", .string (← context.operation? board)),
    ("command_id", .word (← context.commandId? board)),
    ("metadata", Metadata.toJson (← context.metadata? board)),
    ("traceparent", traceparentJson (← context.trace? board)),
    ("active", .bool (context.isActive board))]

/-- One thing that a context tells; by any other name, whether it is active. -/
def contextField (context : Context) (board : Board) (name : String) :
    Except ContextError Json :=
  match name with
  | "entity_id" => (context.entityId? board).map EntityId.toJson
  | "sequence_number" => (context.sequenceNumber? board).map Json.word
  | "operation" => (context.operation? board).map Json.string
  | "command_id" => (context.commandId? board).map Json.word
  | "metadata" => (context.metadata? board).map Metadata.toJson
  | "traceparent" => (context.trace? board).map traceparentJson
  | _ => .ok (.bool (context.isActive board))

def returnEffect (state script : Json) : Handling :=
  match (script.get? "effect").bind (effect? state) with
  | some effect => .done effect
  | none => .fail (.rejected "bad script" none)

/-- Use the context that was kept, if the script asks for it. -/
def useStash (script : Json) (rest : Handling) : Handling :=
  match (script.get? "use_stash").bind Json.string? with
  | none => rest
  | some name =>
    .recalling fun stash board =>
      match stash with
      | none => .done (Effect.reply (.ok (.string "no stash")))
      | some context => replyFrom (contextField context board name)

def rejectOr (script : Json) (rest : Handling) : Handling :=
  match (script.get? "reject").bind Json.string? with
  | some text =>
    let code := (script.get? "code").bind (ErrorCode.ofJson? .free)
    .fail (.rejected text code)
  | none => rest

def failOr (script : Json) (rest : Handling) : Handling :=
  match (script.get? "unexpected").bind Json.string? with
  | some text => .fail (.unexpected text)
  | none => rest

def panicOr (script : Json) (rest : Handling) : Handling :=
  match (script.get? "panic").bind Json.string? with
  | some text => .panicked ⟨text⟩
  | none => rest

def hangOr (script : Json) (rest : Handling) : Handling :=
  if script.get? "hang" = some (.bool true) then .hung else rest

def sleepThen (script : Json) (rest : Handling) : Handling :=
  match (script.get? "sleep").bind Json.word? with
  | some milliseconds => .asleep (milliseconds.toNat * 1000000) rest
  | none => rest

def stashThen (script : Json) (context : Context) (rest : Handling) : Handling :=
  if script.get? "stash" = some (.bool true) then .remembering (some context) rest else rest

/-- Do what a script says, step after step. -/
def perform (state : Json) (context : Context) (script : Json) : Handling :=
  stashThen script context <| sleepThen script <| hangOr script <| panicOr script <|
    failOr script <| rejectOr script <| useStash script <| returnEffect state script

def decodeAny (value : Json) : Except DecodeError Json := .ok value

def router : Router Stash Json Json :=
  Router.empty
    |>.on "echo" decodeAny (fun _ _ payload => .done (Effect.reply (.ok payload)))
    |>.on "state" Json.decodeUnit (fun state _ _ => .done (Effect.reply (encode state)))
    |>.on "ctx" Json.decodeUnit (fun _ context _ =>
      .recalling fun _ board => replyFrom (contextJson context board))
    |>.on "dup" Json.decodeUnit (fun _ _ _ => .done (Effect.reply (.ok (.string "first"))))
    |>.on "dup" decodeAny (fun _ _ payload =>
      .done (Effect.reply (.ok (.array [.string "second", payload]))))
    |>.on "" Json.decodeUnit (fun _ _ _ => .done (Effect.reply (.ok (.string "empty name"))))
    |>.on "do" decodeAny perform

def entity (name : String) (model : StateModel) : Entity where
  name := name
  State := Json
  Event := Json
  Memory := Stash
  memory := none
  model := model
  states := ⟨encode, decode⟩
  events := ⟨encode, decode⟩
  emptyState := .ok (.array [])
  apply := apply
  router := router

end EntityEngine.Samples.Script
