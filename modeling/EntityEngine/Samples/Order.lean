import EntityEngine.Entity

/-!
# An order

A key-value entity: an order is placed, then confirmed or cancelled. It has no
events.
-/

namespace EntityEngine.Samples

structure Order where
  placed : Bool
  confirmed : Bool
  item : String
  quantity : UInt32
deriving DecidableEq

/-- What placing an order takes. -/
structure PlaceOrder where
  item : String
  quantity : UInt32

namespace Order

open Json

def blank : Order := ⟨false, false, "", 0⟩

def toJson (o : Order) : Json :=
  .ofMembers [("placed", .bool o.placed), ("confirmed", .bool o.confirmed),
    ("item", .string o.item), ("quantity", .nat o.quantity.toNat)]

def read (fields : Fields) : Except Fault Order :=
  let flags := Fault.both (fields.decode 0 "placed" decodeBool)
    (fields.decode 1 "confirmed" decodeBool)
  let goods := Fault.both (fields.decode 2 "item" decodeString)
    (fields.decode 3 "quantity" decodeUInt32)
  (Fault.both flags goods).map fun ((placed, confirmed), item, quantity) =>
    ⟨placed, confirmed, item, quantity⟩

def decode : Json → Except DecodeError Order := decodeRecord "struct Order" 4 read

def readPlaceOrder (fields : Fields) : Except Fault PlaceOrder :=
  (Fault.both (fields.decode 0 "item" decodeString)
    (fields.decode 1 "quantity" decodeUInt32)).map fun (item, quantity) => ⟨item, quantity⟩

def decodePlaceOrder : Json → Except DecodeError PlaceOrder :=
  decodeRecord "struct PlaceOrder" 2 readPlaceOrder

abbrev Handling := Activity Unit Order Empty

/-- What is said about an order that was not placed. -/
def absent (context : Context) : String := s!"No order found for {context.entityId.text}"

def place (_ : Order) (_ : Context) (command : PlaceOrder) : Handling :=
  let next : Order := ⟨true, false, command.item, command.quantity⟩
  .done ((Effect.updateState next).thenReply (.ok next.toJson))

def cancel (o : Order) (context : Context) : Handling :=
  if !o.placed then .done (Effect.errorWithCode (absent context) .notFound)
  else if o.confirmed then
    .done (Effect.errorWithCode "Cannot cancel an already confirmed order" .failedPrecondition)
  else .done ((Effect.updateState blank).thenReply (.ok (.string "ok")))

def confirm (o : Order) (context : Context) : Handling :=
  if !o.placed then .done (Effect.error (absent context))
  else .done ((Effect.updateState { o with confirmed := true }).thenReply (.ok (.string "ok")))

def status (o : Order) (context : Context) : Handling :=
  if !o.placed then .fail (.rejected (absent context) none)
  else .done (Effect.reply (.ok o.toJson))

def router : Router Unit Order Empty :=
  Router.empty
    |>.on "placeOrder" decodePlaceOrder place
    |>.on "cancel" decodeUnit (fun o context _ => cancel o context)
    |>.on "confirm" decodeUnit (fun o context _ => confirm o context)
    |>.on "status" decodeUnit (fun o context _ => status o context)
    |>.on "delete" decodeUnit (fun _ _ _ =>
      .done (Effect.deleteEntity.thenReply (.ok (.string "deleted"))))

/-- No JSON value is an event of an order. -/
def decodeEvent (value : Json) : Except DecodeError Empty :=
  match decodeName [] value with
  | .ok (name, _) => .error (.unknownName name [])
  | .error e => .error e

def entity : Entity where
  name := "order"
  State := Order
  Event := Empty
  Memory := Unit
  memory := ()
  model := .keyValue
  states := ⟨fun o => .ok o.toJson, decode⟩
  events := ⟨Empty.elim, decodeEvent⟩
  emptyState := .ok blank
  apply := fun _ event => event.elim
  router := router

end Order

end EntityEngine.Samples
