import EntityEngine.Message.Decode
import Mathlib.Data.List.Induction
import Mathlib.Data.Option.Basic

/-!
# What survives the wire

A host gets the messages of a session in their written form and reads them back. The
main statement is that every outbound message can be read, and that reading gives it
back as it was, with one exception: a reply that puts a state in force whose written
form is `null` is read as a reply without a new state, because an optional field that
is `null` counts as absent. The state of a snapshot is not optional and keeps its
`null`.
-/

namespace EntityEngine

namespace Json

theorem member?_cons (k : String) (value : Json) (rest : List (String × Json)) (key : String) :
    member? ((k, value) :: rest) key = if k = key then some value else member? rest key := by
  by_cases same : k = key <;> simp [member?, same]

theorem member?_nil (key : String) : member? [] key = none := rfl

theorem member?_optional_append (k : String) (value : Option Json) (rest : List (String × Json))
    (key : String) :
    member? (optional k value ++ rest) key =
      (if k = key then value else none).or (member? rest key) := by
  cases value with
  | none => simp [optional]
  | some value => by_cases same : k = key <;> simp [optional, member?_cons, same]

theorem reverse_optional (k : String) (value : Option Json) :
    (optional k value).reverse = optional k value := by
  cases value <;> rfl

/-- A look-up in an object finds the last of the members it was made from. -/
theorem member?_ofMembers (members : List (String × Json)) (key : String) :
    member? (members.foldl (fun sorted member => insertEntry member.1 member.2 sorted) []) key =
      member? members.reverse key := by
  induction members using List.reverseRecOn with
  | nil => rfl
  | append_singleton earlier last ih =>
      unfold member? at ih ⊢
      rw [List.foldl_append, List.foldl_cons, List.foldl_nil, Dictionary.find?_insertEntry, ih,
        List.reverse_append, List.reverse_singleton, List.singleton_append, List.find?_cons]
      by_cases same : last.1 = key
      · simp [same]
      · simp [beq_false_of_ne same, Ne.symm same]

theorem word_ne_null (n : UInt64) : word n ≠ .null := by
  simp [word, nat, int]

theorem mapM_map_eq_some {α β : Type} {write : α → β} {read : β → Option α}
    (reads : ∀ a, read (write a) = some a) (as : List α) :
    (as.map write).mapM read = some as := by
  induction as with
  | nil => rfl
  | cons a as ih => simp [reads, ih]

end Json

namespace Fields

/-- The fields that are read from an object made of `members`. -/
def written (members : List (String × Json)) : Fields :=
  named (members.foldl (fun sorted member => insertEntry member.1 member.2 sorted) [])

@[simp] theorem ofJson?_ofMembers (members : List (String × Json)) :
    ofJson? (.ofMembers members) = some (written members) :=
  rfl

@[simp] theorem cell?_written (members : List (String × Json)) (position : Nat) (name : String) :
    (written members).cell? position name = Json.member? members.reverse name :=
  Json.member?_ofMembers members name

@[simp] theorem fits_written (members : List (String × Json)) (count : Nat) :
    (written members).fits count = true :=
  rfl

@[simp] theorem tagged?_ofMembers (members : List (String × Json)) (key : String) :
    tagged? key (.ofMembers members) =
      (Json.member? members.reverse key).map fun tag => (tag, written members) := by
  rw [← Json.member?_ofMembers]
  rfl

/-- An optional field whose values are never written as `null` is read as it was. -/
theorem optional_of_cell? {α : Type} {fields : Fields} {position : Nat} {name : String}
    {write : α → Json} {read : Json → Option α} {value : Option α}
    (visible : ∀ a, write a ≠ .null) (reads : ∀ a, read (write a) = some a)
    (cell : fields.cell? position name = value.map write) :
    fields.optional position name read = some value := by
  cases value <;> simp [optional, withDefault, field, cell, visible, reads]

end Fields

section

attribute [local simp] Fields.required Fields.withDefault Fields.optional Fields.field
  Json.member?_cons  Json.member?_nil Json.member?_optional_append Json.reverse_optional

@[simp] theorem Snapshot.ofJson?_toJson (s : Snapshot) : ofJson? s.toJson = some s := by
  simp -implicitDefEqProofs [ofJson?, toJson, ofFields?]

@[simp] theorem EventRecord.ofJson?_toJson (e : EventRecord) : ofJson? e.toJson = some e := by
  simp -implicitDefEqProofs [ofJson?, toJson, members, ofFields?]

@[simp] theorem ErrorCode.ofJson?_toJson (standing : Standing) (code : ErrorCode) :
    ofJson? standing code.toJson = some code := by
  cases code <;> rfl

@[simp] theorem ForwardTarget.ofJson?_toJson (t : ForwardTarget) : ofJson? t.toJson = some t := by
  simp [ofJson?, toJson, ofFields?]

theorem ErrorCode.toJson_ne_null (code : ErrorCode) : code.toJson ≠ .null := by
  simp [toJson]

@[simp] theorem ClientAction.ofJson?_toJson (a : ClientAction) :
    ofJson? .tagged a.toJson = some a := by
  cases a with
  | reply payload => simp [ofJson?, toJson, members, type, typeOf?]
  | error message code =>
      cases code <;>
        simp [ofJson?, toJson, members, type, typeOf?, ErrorCode.toJson_ne_null,
          Json.optional]
  | forward target => simp [ofJson?, toJson, members, type, typeOf?]
  | noReply => simp [ofJson?, toJson, members, type, typeOf?]

end

namespace Uuid

theorem digit?_digitChar (d : Fin 16) : digit? (digitChar d) = some d := by
  revert d
  decide

theorem ofDigits?_digits (u : Uuid) : ofDigits? (u.digits.map digitChar) = some u := by
  simp [ofDigits?, Json.mapM_map_eq_some digit?_digitChar, u.length_digits]

theorem length_hyphenate {cs : List Char} (length : cs.length = 32) :
    (hyphenate cs).length = 36 := by
  simp [hyphenate, length]

/-- The groups without their hyphens. -/
theorem ofGroups?_hyphenate {cs : List Char} (length : cs.length = 32) :
    ofGroups? (hyphenate cs) = ofDigits? cs := by
  have next (n k : Nat) : (cs.drop n).take k ++ cs.drop (n + k) = cs.drop n := by
    rw [← List.drop_drop, List.take_append_drop]
  have plain : (hyphenate cs).take 8 ++ ((hyphenate cs).drop 9).take 4 ++
      ((hyphenate cs).drop 14).take 4 ++ ((hyphenate cs).drop 19).take 4 ++
      (hyphenate cs).drop 24 = cs := by
    simp [hyphenate, List.drop_append, List.drop_take, length,
      next 16 4, next 12 4, next 8 4]
  simp only [ofGroups?]
  rw [plain, if_pos ⟨length_hyphenate length, rfl⟩]

/-- No group starts like the longer forms. -/
theorem digitChar_ne (d : Fin 16) : digitChar d ≠ '\x7b' ∧ (digitChar d).toLower ≠ 'u' := by
  revert d
  decide

theorem hyphenate_cons (c : Char) (cs : List Char) :
    ∃ rest, hyphenate (c :: cs) = c :: rest :=
  ⟨_, rfl⟩

@[simp] theorem ofString?_text (u : Uuid) : ofString? u.text = some u := by
  have length : (u.digits.map digitChar).length = 32 := by simp [u.length_digits]
  obtain ⟨first, rest, starts⟩ :
      ∃ d rest, hyphenate (u.digits.map digitChar) = digitChar d :: rest := by
    obtain ⟨_ | ⟨d, ds⟩, full⟩ := u
    · simp at full
    · exact ⟨d, hyphenate_cons _ _⟩
  unfold ofString? text
  rw [String.toList_ofList]
  split
  next braced => simp [starts, (digitChar_ne first).1] at braced
  next =>
    rw [if_neg, if_neg, ofGroups?_hyphenate length, ofDigits?_digits]
    · simp [length_hyphenate length]
    · simp [starts, marker, (digitChar_ne first).2]

end Uuid

/-- What a reply becomes on the wire: a new state that is written as `null` is lost. -/
def Reply.transmitted (r : Reply) : Reply :=
  { r with stateUpdate := r.stateUpdate.filter (· ≠ .null) }

theorem Reply.transmitted_of_ne_null {r : Reply} (shown : r.stateUpdate ≠ some .null) :
    r.transmitted = r := by
  obtain ⟨commandId, action, events, snapshot, update, deletes⟩ := r
  cases update with
  | none => rfl
  | some value =>
      have kept : value ≠ .null := fun null => shown (congrArg some null)
      simp [transmitted, Option.filter, kept]

/-- What an outbound message becomes on the wire. -/
def Outbound.transmitted : Outbound → Outbound
  | .reply r => .reply r.transmitted
  | .failure f => .failure f
  | .snapshotReply r => .snapshotReply r

section

attribute [local simp] Fields.required Fields.withDefault Fields.optional Fields.field
  Json.member?_cons  Json.member?_nil Json.member?_optional_append Json.reverse_optional

theorem Snapshot.toJson_ne_null (s : Snapshot) : s.toJson ≠ .null := by
  simp [toJson, Json.ofMembers]

theorem EventRecord.arrayOf?_map_toJson (events : List EventRecord) :
    Json.arrayOf? ofJson? (.array (events.map toJson)) = some events :=
  Json.mapM_map_eq_some ofJson?_toJson events

theorem Reply.ofFields?_members (r : Reply) (kind : Json) :
    ofFields? .tagged (.written (("kind", kind) :: r.members)) = some r.transmitted := by
  generalize written : Fields.written (("kind", kind) :: r.members) = fields
  have fit : fields.fits 6 = true := by rw [← written, Fields.fits_written]
  have commandId : fields.required 0 "command_id" Json.word? = some r.commandId := by
    simp -implicitDefEqProofs [← written, members]
  have action : fields.required 1 "client_action" (ClientAction.ofJson? .tagged) =
      some r.clientAction := by
    simp [← written, members]
  have events : fields.withDefault 2 "emitted_events" [] (Json.arrayOf? EventRecord.ofJson?) =
      some r.emittedEvents := by
    cases emitted : r.emittedEvents with
    | nil => simp [← written, members, emitted]
    | cons event rest =>
        simpa [← written, members, emitted] using
          EventRecord.arrayOf?_map_toJson (event :: rest)
  have snapshot : fields.optional 3 "snapshot" Snapshot.ofJson? = some r.snapshot := by
    refine Fields.optional_of_cell? Snapshot.toJson_ne_null Snapshot.ofJson?_toJson ?_
    simp [← written, members]
  have state : fields.optional 4 "state_update" some =
      some (r.stateUpdate.filter (· ≠ .null)) := by
    cases update : r.stateUpdate with
    | none => simp [← written, members, update]
    | some value =>
        by_cases hidden : value = .null <;>
          simp [← written, members, update, hidden, Option.filter]
  have deleted : fields.withDefault 5 "delete_after" false Json.bool? = some r.deleteAfter := by
    simp [← written, members]
  simp only [ofFields?, fit, commandId, action, events, snapshot, state, deleted, guard]
  rfl

theorem Failure.ofFields?_members (f : Failure) (kind : Json) :
    ofFields? (.written (("kind", kind) :: f.members)) = some f := by
  obtain ⟨commandId, description, correlation⟩ := f
  cases commandId <;> cases correlation <;>
    simp -implicitDefEqProofs [ofFields?, members, Json.word_ne_null]

theorem SnapshotReply.ofFields?_members (r : SnapshotReply) (kind : Json) :
    ofFields? (.written (("kind", kind) :: r.members)) = some r := by
  simp -implicitDefEqProofs [ofFields?, members]

/-- The tag of an outbound message comes back with its fields. -/
theorem Outbound.tagged?_toJson (m : Outbound) :
    Fields.tagged? "kind" m.toJson =
      some (.string m.kind, .written (("kind", .string m.kind) :: m.members)) := by
  cases m <;>
    simp -implicitDefEqProofs [toJson, members, Reply.members, Failure.members,
      SnapshotReply.members]

/-- Every outbound message can be read from its written form. -/
theorem Outbound.ofJson?_toJson (m : Outbound) : ofJson? m.toJson = some m.transmitted := by
  simp only [ofJson?, tagged?_toJson, Option.bind_eq_bind, Option.bind_some]
  cases m with
  | reply r => simp only [kind, members, r.ofFields?_members, Option.map_some, transmitted]
  | failure f => simp only [kind, members, f.ofFields?_members, Option.map_some, transmitted]
  | snapshotReply r => simp only [kind, members, r.ofFields?_members, Option.map_some, transmitted]

end

end EntityEngine
