import EntityEngine.Proofs.Conversation
import EntityEngine.Proofs.Wire

/-!
# Messages on the wire

Messages of either direction survive being written and read back, but for one thing: an
optional field of any JSON value, the payload of a command or the state update of a
reply, is read as absent when it is written as `null`. What has been read once is in
that sense complete, in whichever form it was given, and survives as it is.

The payload that is lost does not matter to the engine, whose handlers are given `null`
when there is none. So a session serves a message that has crossed the wire exactly as
it serves the message itself.
-/

namespace EntityEngine

theorem insertEntry_of_forall_lt {α : Type} {key : String} {value : α}
    {entries : List (String × α)} (below : ∀ entry ∈ entries, entry.1 < key) :
    insertEntry key value entries = entries ++ [(key, value)] := by
  induction entries with
  | nil => rfl
  | cons head rest ih =>
      obtain ⟨first, others⟩ := List.forall_mem_cons.mp below
      rw [insertEntry_of_gt first, ih others, List.cons_append]

namespace Dictionary

theorem entries_ofList {α : Type} {entries : List (String × α)}
    (increasing : KeysIncrease entries) : (ofList entries).entries = entries := by
  induction entries using List.reverseRecOn with
  | nil => rfl
  | append_singleton earlier last ih =>
      obtain ⟨before, -, below⟩ := List.pairwise_append.mp increasing
      have read : (ofList earlier).entries = earlier := ih before
      have step : (ofList (earlier ++ [last])).entries =
          insertEntry last.1 last.2 (ofList earlier).entries := by
        simp only [ofList, List.foldl_append, List.foldl_cons, List.foldl_nil]
        rfl
      rw [step, read]
      exact insertEntry_of_forall_lt fun entry member =>
        below entry member last (List.mem_singleton_self last)

@[simp] theorem ofList_entries {α : Type} (d : Dictionary α) : ofList d.entries = d := by
  obtain ⟨entries, increasing⟩ := d
  have same := entries_ofList increasing
  generalize ofList entries = read at *
  obtain ⟨_, _⟩ := read
  cases same
  rfl

end Dictionary

@[simp] theorem Metadata.ofJson?_toJson (metadata : Metadata) :
    ofJson? (toJson metadata) = some metadata := by
  have entries : (metadata.entries.map fun entry => (entry.1, Json.string entry.2)).mapM
      (fun member => member.2.string?.map fun text => (member.1, text)) =
      some metadata.entries :=
    @Json.mapM_map_eq_some _ _ (fun entry : String × String => (entry.1, Json.string entry.2)) _
      (fun _ => rfl) metadata.entries
  simp only [ofJson?, toJson, entries, Option.bind_eq_bind, Option.bind_some,
    Dictionary.ofList_entries]

/-- What a command becomes on the wire: a payload that is `null` is lost. -/
def Command.transmitted (c : Command) : Command :=
  { c with payload := c.payload.filter (· ≠ .null) }

/-- What an inbound message becomes on the wire. -/
def Inbound.transmitted : Inbound → Inbound
  | .command c => .command c.transmitted
  | message => message

/-- An optional field of any value is never read as `null`. -/
theorem Fields.filter_of_optional {fields : Fields} {position : Nat} {name : String}
    {value : Option Json} (read : fields.optional position name some = some value) :
    value.filter (· ≠ .null) = value := by
  unfold optional withDefault field at read
  split at read
  · cases read
    rfl
  next cell found =>
    dsimp only at read
    split at read
    · cases read
      rfl
    next visible =>
      cases read
      simp [Option.filter, visible]

section

attribute [local simp] Fields.required Fields.withDefault Fields.optional Fields.field
  Json.member?_cons Json.member?_nil Json.member?_optional_append Json.reverse_optional
  EntityId.ofJson? EntityId.toJson

theorem Init.ofFields?_members (m : Init) (kind : Json) :
    ofFields? (.written (("kind", kind) :: m.members)) = some m := by
  obtain ⟨entityId, snapshot⟩ := m
  cases snapshot <;>
    simp -implicitDefEqProofs [ofFields?, members, Json.optional, Snapshot.toJson_ne_null]

theorem EventRecord.ofFields?_members (e : EventRecord) (kind : Json) :
    ofFields? (.written (("kind", kind) :: e.members)) = some e := by
  simp -implicitDefEqProofs [ofFields?, members]

theorem Command.ofFields?_members (c : Command) (kind : Json) :
    ofFields? (.written (("kind", kind) :: c.members)) = some c.transmitted := by
  generalize written : Fields.written (("kind", kind) :: c.members) = fields
  have fit : fields.fits 5 = true := by rw [← written, Fields.fits_written]
  have commandId : fields.required 0 "command_id" Json.word? = some c.commandId := by
    simp -implicitDefEqProofs [← written, members]
  have entityId : fields.required 1 "entity_id" EntityId.ofJson? = some c.entityId := by
    simp [← written, members]
  have operation : fields.required 2 "operation" Json.string? = some c.operation := by
    simp [← written, members]
  have payload : fields.optional 3 "payload" some = some (c.payload.filter (· ≠ .null)) := by
    cases given : c.payload with
    | none => simp [← written, members, given]
    | some value =>
        by_cases hidden : value = .null <;>
          simp [← written, members, given, hidden, Option.filter]
  have metadata : fields.withDefault 4 "metadata" .empty Metadata.ofJson? = some c.metadata := by
    cases blank : c.metadata.isEmpty with
    | false => simp [← written, members, blank]
    | true =>
        have bare : c.metadata = .empty := by
          rw [← c.metadata.ofList_entries, List.isEmpty_iff.mp blank]
          rfl
        simpa [← written, members, blank] using bare.symm
  simp only [ofFields?, fit, commandId, entityId, operation, payload, metadata, guard]
  rfl

theorem SnapshotRequest.ofFields?_members (r : SnapshotRequest) (kind : Json) :
    ofFields? (.written (("kind", kind) :: r.members)) = some r := by
  simp -implicitDefEqProofs [ofFields?, members]

theorem Inbound.tagged?_toJson (m : Inbound) :
    Fields.tagged? "kind" m.toJson =
      some (.string m.kind, .written (("kind", .string m.kind) :: m.members)) := by
  cases m <;>
    simp -implicitDefEqProofs [toJson, members, Init.members, EventRecord.members,
      Command.members, SnapshotRequest.members]

/-- Every inbound message can be read from its written form. -/
theorem Inbound.ofJson?_toJson (m : Inbound) : ofJson? m.toJson = some m.transmitted := by
  simp only [ofJson?, tagged?_toJson, Option.bind_eq_bind, Option.bind_some]
  cases m with
  | init m => simp only [kind, members, m.ofFields?_members, Option.map_some, transmitted]
  | event e => simp only [kind, members, e.ofFields?_members, Option.map_some, transmitted]
  | command c => simp only [kind, members, c.ofFields?_members, Option.map_some, transmitted]
  | snapshotRequest r =>
      simp only [kind, members, r.ofFields?_members, Option.map_some, transmitted]

end

theorem Command.transmitted_of_ofFields? {fields : Fields} {c : Command}
    (read : ofFields? fields = some c) : c.transmitted = c := by
  simp only [ofFields?, Option.bind_eq_bind, Option.bind_eq_some_iff] at read
  obtain ⟨-, -, commandId, -, entityId, -, operation, -, payload, given, metadata, -, made⟩ := read
  cases made
  simp only [transmitted, Fields.filter_of_optional given]

theorem Reply.transmitted_of_ofFields? {standing : Standing} {fields : Fields} {r : Reply}
    (read : ofFields? standing fields = some r) : r.transmitted = r := by
  simp only [ofFields?, Option.bind_eq_bind, Option.bind_eq_some_iff] at read
  obtain ⟨-, -, commandId, -, action, -, events, -, snapshot, -, update, given, deletes, -, made⟩ :=
    read
  cases made
  simp only [transmitted, Fields.filter_of_optional given]

/-- What has been read from any form of an inbound message loses nothing any more. -/
theorem Inbound.transmitted_of_ofJson? {value : Json} {m : Inbound}
    (read : ofJson? value = some m) : m.transmitted = m := by
  cases m with
  | command c =>
      simp only [ofJson?, Option.bind_eq_bind, Option.bind_eq_some_iff] at read
      obtain ⟨⟨tag, fields⟩, -, read⟩ := read
      split at read <;>
        simp only [Option.map_eq_some_iff, reduceCtorEq, and_false, exists_false] at read
      obtain ⟨c', read, same⟩ := read
      cases same
      exact congrArg command (Command.transmitted_of_ofFields? read)
  | _ => rfl

theorem Outbound.transmitted_of_ofJson? {value : Json} {m : Outbound}
    (read : ofJson? value = some m) : m.transmitted = m := by
  cases m with
  | reply r =>
      simp only [ofJson?, Option.bind_eq_bind, Option.bind_eq_some_iff] at read
      obtain ⟨⟨tag, fields⟩, -, read⟩ := read
      split at read <;>
        simp only [Option.map_eq_some_iff, reduceCtorEq, and_false, exists_false] at read
      obtain ⟨r', read, same⟩ := read
      cases same
      exact congrArg reply (Reply.transmitted_of_ofFields? read)
  | _ => rfl

/-- Reading, writing and reading again comes to the same as reading. -/
theorem Inbound.ofJson?_bind_toJson (value : Json) :
    ((ofJson? value).bind fun read => ofJson? read.toJson) = ofJson? value := by
  cases read : ofJson? value with
  | none => rfl
  | some m => rw [Option.bind_some, ofJson?_toJson, transmitted_of_ofJson? read]

theorem Outbound.ofJson?_bind_toJson (value : Json) :
    ((ofJson? value).bind fun read => ofJson? read.toJson) = ofJson? value := by
  cases read : ofJson? value with
  | none => rfl
  | some m => rw [Option.bind_some, ofJson?_toJson, transmitted_of_ofJson? read]

/-- A handler does not see whether its payload was `null` or absent. -/
theorem Entity.dispatch_filter (E : Entity) (operation : String) (state : E.State)
    (context : Context) (payload : Option Json) :
    E.dispatch operation state context (payload.filter (· ≠ .null)) =
      E.dispatch operation state context payload := by
  have same : (payload.filter (· ≠ .null)).getD .null = payload.getD .null := by
    cases payload with
    | none => rfl
    | some value => by_cases hidden : value = .null <;> simp [Option.filter, hidden]
  unfold Entity.dispatch
  rw [same]

namespace Session

variable {E : Entity}

theorem receiveCommand_transmitted (s : Session E) (shared : Shared E.Memory) (c : Command) :
    s.receiveCommand shared c.transmitted = s.receiveCommand shared c := by
  have launched (t : Session E) (life : Incarnation E.State) :
      t.launch shared c.transmitted life = t.launch shared c life := by
    simp only [launch, Command.transmitted, E.dispatch_filter]
  simp only [receiveCommand, launched]
  rfl

theorem begin_transmitted (s : Session E) (shared : Shared E.Memory) (message : Inbound) :
    s.begin shared message.transmitted = s.begin shared message := by
  cases message with
  | command c =>
      have received (t : Session E) := t.receiveCommand_transmitted shared c
      cases phase : s.phase <;> simp only [begin, phase, Inbound.transmitted, received] <;> rfl
  | _ => rfl

/-- Every message can be read from its written form, and comes back as it was but for an
optional payload or state update of `null`; a message that has been read from any value
comes back exactly; and a session in any state serves an inbound message that has been
written and read as it serves the message itself. -/
theorem serve_read_written (s : Session E) (shared : Shared E.Memory) (patience : Nat)
    (inbound : Inbound) (outbound : Outbound) (value : Json) :
    Inbound.ofJson? inbound.toJson = some inbound.transmitted ∧
      Outbound.ofJson? outbound.toJson = some outbound.transmitted ∧
      ((Inbound.ofJson? value).bind fun read => Inbound.ofJson? read.toJson) =
        Inbound.ofJson? value ∧
      ((Outbound.ofJson? value).bind fun read => Outbound.ofJson? read.toJson) =
        Outbound.ofJson? value ∧
      s.serve shared ⟨inbound.transmitted, patience⟩ = s.serve shared ⟨inbound, patience⟩ := by
  refine ⟨inbound.ofJson?_toJson, outbound.ofJson?_toJson, Inbound.ofJson?_bind_toJson value,
    Outbound.ofJson?_bind_toJson value, ?_⟩
  unfold serve
  rw [begin_transmitted]

end Session

end EntityEngine
