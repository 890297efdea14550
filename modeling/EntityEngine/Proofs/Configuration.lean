import EntityEngine.Proofs.Transmission
import EntityEngine.Settings
import Mathlib.Data.List.Forall2

/-!
# Settings that are written and read

Settings are written with every field and read with any of them missing. The main statement
is that what was written is read as it was but for the fractions of seconds, so that every
entity type keeps its snapshot policy, and that an object is read exactly if each field it has
is one that counts, whatever else it has: then the settings are the default ones with these
fields in their place.
-/

namespace EntityEngine

namespace Json

/-- The integer `n` of the signed 64-bit range. -/
def IsInt64 (value : Json) (n : Int64) : Prop := value = .int n.toInt

/-- The integer `n` of the unsigned 64-bit range. -/
def IsWord (value : Json) (n : UInt64) : Prop := value = .word n

/-- A number of whole seconds. -/
def IsSeconds (value : Json) (d : Duration) : Prop := ∃ n, value.IsWord n ∧ d = .ofSeconds n

/-- A value of a kind, or `null` in its place. -/
inductive IsOptional {α : Type} (Is : Json → α → Prop) : Json → Option α → Prop
  | null : IsOptional Is .null none
  | some {value : Json} {a : α} (is : Is value a) : IsOptional Is value (some a)

/-- The reader reads exactly the values of a kind. -/
def Reads {α : Type} (read : Json → Option α) (Is : Json → α → Prop) : Prop :=
  ∀ value a, read value = some a ↔ Is value a

theorem of_decodeInteger {wanted : String} {low high n : Int} {value : Json}
    (read : decodeInteger wanted low high value = .ok n) : value = .int n ∧ low ≤ n ∧ n < high := by
  unfold decodeInteger at read
  split at read
  · split at read
    next range =>
      cases read
      exact ⟨rfl, range⟩
    · cases read
  · cases read

theorem reads_word : Reads word? IsWord := by
  intro value n
  constructor
  · intro read
    unfold word? decodeWord at read
    cases found : decodeInteger "u64" 0 (Int.pow 2 64) value with
    | error e =>
        rw [found] at read
        cases read
    | ok k =>
        obtain ⟨rfl, low, high⟩ := of_decodeInteger found
        rw [found] at read
        cases read
        have small : k.toNat < UInt64.size := (Int.toNat_lt low).mpr high
        rw [IsWord, word, nat, UInt64.toNat_ofNat_of_lt' small, Int.toNat_of_nonneg low]
  · rintro rfl
    exact word?_word n

theorem reads_int64 : Reads int64? IsInt64 := by
  intro value n
  constructor
  · intro read
    unfold int64? decodeInt64 at read
    cases found : decodeInteger "i64" (-Int.pow 2 63) (Int.pow 2 63) value with
    | error e =>
        rw [found] at read
        cases read
    | ok k =>
        obtain ⟨rfl, low, high⟩ := of_decodeInteger found
        rw [found] at read
        cases read
        rw [IsInt64, Int64.toInt_ofInt_of_le low high]
  · rintro rfl
    exact int64?_int n

theorem reads_seconds : Reads seconds? IsSeconds := by
  intro value d
  simp only [seconds?, Option.map_eq_some_iff, IsSeconds, reads_word value, eq_comm (a := d)]

/-- What a field holds: the value in its cell, or the default where the cell is empty. -/
inductive Field {α : Type} (Is : Json → α → Prop) (default : α) : Option Json → α → Prop
  | missing : Field Is default none default
  | present {value : Json} {a : α} (is : Is value a) : Field Is default (some value) a

theorem exists_field_iff {α : Type} {Is : Json → α → Prop} {default : α} {cell : Option Json} :
    (∃ a, Field Is default cell a) ↔ ∀ value, cell = some value → ∃ a, Is value a := by
  cases cell with
  | none => exact ⟨nofun, fun _ => ⟨default, .missing⟩⟩
  | some value =>
      constructor
      · rintro ⟨a, _ | is⟩ _ ⟨⟩
        exact ⟨a, is⟩
      · intro accepted
        obtain ⟨a, is⟩ := accepted value rfl
        exact ⟨a, .present is⟩

/-- Members with other keys do not matter to a look-up. -/
theorem member?_filter {keep : String → Bool} {key : String} (kept : keep key = true)
    (members : List (String × Json)) :
    member? (members.filter fun member => keep member.1) key = member? members key := by
  unfold member?
  rw [List.find?_filter]
  congr 2
  funext member
  by_cases same : member.1 = key <;> simp [same, kept]

end Json

namespace Fields

variable {α : Type} {Is : Json → α → Prop} {read : Json → Option α}

theorem withDefault_eq_some_iff (reads : Json.Reads read Is) {fields : Fields} {position : Nat}
    {key : String} {default a : α} :
    fields.withDefault position key default read = some a ↔
      Json.Field Is default (fields.cell? position key) a := by
  unfold withDefault field
  cases fields.cell? position key with
  | none =>
      constructor
      · rintro ⟨⟩
        exact .missing
      · rintro ⟨⟩
        rfl
  | some value =>
      refine (reads value a).trans ⟨.present, ?_⟩
      rintro (_ | is)
      exact is

/-- What is not written as `null` can be optional. -/
theorem reads_optional (reads : Json.Reads read Is) (visible : ∀ a, ¬Is .null a) :
    Json.Reads (fun value => if value = .null then some none else (read value).map some)
      (Json.IsOptional Is) := by
  intro value a
  dsimp only
  split
  next null =>
    subst null
    constructor
    · rintro ⟨⟩
      exact .null
    · rintro (_ | is)
      · rfl
      · exact (visible _ is).elim
  next proper =>
    rw [Option.map_eq_some_iff]
    constructor
    · rintro ⟨b, readable, rfl⟩
      exact .some ((reads value b).mp readable)
    · rintro (_ | ⟨is⟩)
      · exact (proper rfl).elim
      · exact ⟨_, (reads value _).mpr is, rfl⟩

theorem optional_eq_some_iff (reads : Json.Reads read Is) (visible : ∀ a, ¬Is .null a)
    {fields : Fields} {position : Nat} {key : String} {a : Option α} :
    fields.optional position key read = some a ↔
      Json.Field (Json.IsOptional Is) none (fields.cell? position key) a :=
  withDefault_eq_some_iff (reads_optional reads visible)

end Fields

namespace TypeSettings

/-- The overrides for a type: an object with an optional field, or an array with at most that
field. -/
inductive Written : Json → TypeSettings → Prop
  | named {members : List (String × Json)} {s : TypeSettings}
      (field : Json.Field (Json.IsOptional Json.IsInt64) none
        (Json.member? members "snapshot_every") s.snapshotEvery) : Written (.object members) s
  | listed {items : List Json} {s : TypeSettings} (short : items.length ≤ 1)
      (field : Json.Field (Json.IsOptional Json.IsInt64) none items[0]? s.snapshotEvery) :
      Written (.array items) s

theorem ofFields?_eq_some_iff {fields : Fields} {s : TypeSettings} :
    ofFields? fields = some s ↔ fields.fits 1 = true ∧
      Json.Field (Json.IsOptional Json.IsInt64) none (fields.cell? 0 "snapshot_every")
        s.snapshotEvery := by
  rw [← Fields.optional_eq_some_iff Json.reads_int64 fun _ null => nomatch null]
  simp only [ofFields?, Option.bind_eq_bind, Option.bind_eq_some_iff]
  constructor
  · rintro ⟨⟨⟩, fits, read, found, ⟨⟩⟩
    exact ⟨by simpa [guard] using fits, found⟩
  · rintro ⟨fits, found⟩
    exact ⟨(), by simp [guard, fits], _, found, rfl⟩

theorem reads_written : Json.Reads ofJson? Written := by
  intro value s
  unfold ofJson?
  cases value with
  | object members =>
      refine ofFields?_eq_some_iff.trans ⟨fun ⟨_, field⟩ => .named field, ?_⟩
      rintro ⟨field⟩
      exact ⟨rfl, field⟩
  | array items =>
      refine ofFields?_eq_some_iff.trans
        ⟨fun ⟨fits, field⟩ => .listed (of_decide_eq_true fits) field, ?_⟩
      rintro ⟨⟩
      exact ⟨decide_eq_true ‹_›, ‹_›⟩
  | _ => exact ⟨nofun, nofun⟩

end TypeSettings

/-- An object keyed by entity types, each with its overrides; the last one of a type counts. -/
inductive Json.IsOverrides : Json → Dictionary TypeSettings → Prop
  | mk {members : List (String × Json)} {entries : List (String × TypeSettings)}
      (written : List.Forall₂ (fun member entry => member.1 = entry.1 ∧
        TypeSettings.Written member.2 entry.2) members entries) :
      IsOverrides (.object members) (Dictionary.ofList entries)

theorem mapM_eq_some_iff {α β : Type} {f : α → Option β} {as : List α} {bs : List β} :
    as.mapM f = some bs ↔ List.Forall₂ (fun a b => f a = some b) as bs := by
  induction as generalizing bs with
  | nil => simp [eq_comm]
  | cons a as ih =>
      simp only [List.mapM_cons, Option.bind_eq_bind, Option.bind_eq_some_iff, ih,
        List.forall₂_cons_left_iff]
      constructor
      · rintro ⟨b, first, bs, rest, ⟨⟩⟩
        exact ⟨b, bs, first, rest, rfl⟩
      · rintro ⟨b, bs, first, rest, rfl⟩
        exact ⟨b, first, bs, rest, rfl⟩

theorem Json.reads_overrides : Reads overrides? IsOverrides := by
  intro value d
  cases value with
  | object members =>
      have each (member : String × Json) (entry : String × TypeSettings) :
          (TypeSettings.ofJson? member.2).map (fun settings => (member.1, settings)) = some entry ↔
            member.1 = entry.1 ∧ TypeSettings.Written member.2 entry.2 := by
        obtain ⟨key, settings⟩ := entry
        simp [← TypeSettings.reads_written member.2, and_comm]
      simp only [overrides?, Option.bind_eq_bind, Option.bind_eq_some_iff, mapM_eq_some_iff, each]
      constructor
      · rintro ⟨entries, written, ⟨⟩⟩
        exact .mk written
      · rintro ⟨written⟩
        exact ⟨_, written, rfl⟩
  | _ => exact ⟨nofun, nofun⟩

namespace Settings

/-- The fields that count, with the values that they can have. -/
def known : List (String × (Json → Prop)) := [
  ("snapshot_every", fun value => ∃ n, value.IsInt64 n),
  ("cleanup_deleted_entity_after", fun value => ∃ d, value.IsSeconds d),
  ("channel_capacity", fun value => ∃ n, value.IsWord n),
  ("passivation_timeout", fun value => ∃ d, Json.IsOptional Json.IsSeconds value d),
  ("entities", fun value => ∃ d, value.IsOverrides d)]

/-- The default settings with the fields of an object in their place. -/
structure Overlaid (members : List (String × Json)) (s : Settings) : Prop where
  snapshotEvery : Json.Field Json.IsInt64 default.snapshotEvery
    (Json.member? members "snapshot_every") s.snapshotEvery
  retention : Json.Field Json.IsSeconds default.retention
    (Json.member? members "cleanup_deleted_entity_after") s.retention
  channelCapacity : Json.Field Json.IsWord default.channelCapacity
    (Json.member? members "channel_capacity") s.channelCapacity
  passivation : Json.Field (Json.IsOptional Json.IsSeconds) default.passivation
    (Json.member? members "passivation_timeout") s.passivation
  entities : Json.Field Json.IsOverrides default.entities
    (Json.member? members "entities") s.entities

theorem exists_overlaid_iff {members : List (String × Json)} :
    (∃ s, Overlaid members s) ↔ ∀ field ∈ known, ∀ value,
      Json.member? members field.1 = some value → field.2 value := by
  constructor
  · rintro ⟨s, snapshotEvery, retention, capacity, passivation, entities⟩
    simp only [known, List.forall_mem_cons]
    exact ⟨Json.exists_field_iff.mp ⟨_, snapshotEvery⟩, Json.exists_field_iff.mp ⟨_, retention⟩,
      Json.exists_field_iff.mp ⟨_, capacity⟩, Json.exists_field_iff.mp ⟨_, passivation⟩,
      Json.exists_field_iff.mp ⟨_, entities⟩, nofun⟩
  · intro accepted
    simp only [known, List.forall_mem_cons] at accepted
    obtain ⟨snapshotEvery, retention, capacity, passivation, entities, -⟩ := accepted
    obtain ⟨every, snapshotEvery⟩ := Json.exists_field_iff.mpr snapshotEvery
    obtain ⟨retained, retention⟩ := Json.exists_field_iff.mpr retention
    obtain ⟨size, capacity⟩ := Json.exists_field_iff.mpr capacity
    obtain ⟨idle, passivation⟩ := Json.exists_field_iff.mpr passivation
    obtain ⟨overrides, entities⟩ := Json.exists_field_iff.mpr entities
    exact ⟨⟨every, retained, size, idle, overrides⟩, snapshotEvery, retention, capacity,
      passivation, entities⟩

def trimmed (members : List (String × Json)) : List (String × Json) :=
  members.filter fun member => (known.map Prod.fst).contains member.1

theorem overlaid_trimmed {members : List (String × Json)} {s : Settings} :
    Overlaid (trimmed members) s ↔ Overlaid members s := by
  have same {key : String} (counts : (known.map Prod.fst).contains key = true) :
      Json.member? (trimmed members) key = Json.member? members key :=
    Json.member?_filter counts members
  constructor <;> rintro ⟨snapshotEvery, retention, capacity, passivation, entities⟩
  · rw [same (by simp [known])] at snapshotEvery retention capacity passivation entities
    exact ⟨snapshotEvery, retention, capacity, passivation, entities⟩
  · rw [← same (by simp [known])] at snapshotEvery retention capacity passivation entities
    exact ⟨snapshotEvery, retention, capacity, passivation, entities⟩

theorem ofFields?_eq_some_iff {fields : Fields} {s : Settings} :
    ofFields? fields = some s ↔ fields.fits 5 = true ∧
      Json.Field Json.IsInt64 default.snapshotEvery (fields.cell? 0 "snapshot_every")
        s.snapshotEvery ∧
      Json.Field Json.IsSeconds default.retention (fields.cell? 1 "cleanup_deleted_entity_after")
        s.retention ∧
      Json.Field Json.IsWord default.channelCapacity (fields.cell? 2 "channel_capacity")
        s.channelCapacity ∧
      Json.Field (Json.IsOptional Json.IsSeconds) default.passivation
        (fields.cell? 3 "passivation_timeout") s.passivation ∧
      Json.Field Json.IsOverrides default.entities (fields.cell? 4 "entities") s.entities := by
  have visible (d : Duration) : ¬Json.IsSeconds .null d := fun ⟨_, null, _⟩ => nomatch null
  rw [← Fields.withDefault_eq_some_iff Json.reads_int64,
    ← Fields.withDefault_eq_some_iff Json.reads_seconds,
    ← Fields.withDefault_eq_some_iff Json.reads_word,
    ← Fields.withDefault_eq_some_iff Json.reads_overrides,
    show default.passivation = none from rfl,
    ← Fields.optional_eq_some_iff Json.reads_seconds visible]
  simp only [ofFields?, Option.bind_eq_bind, Option.bind_eq_some_iff]
  constructor
  · rintro ⟨⟨⟩, fits, _, snapshotEvery, _, retention, _, capacity, _, passivation, _, entities, ⟨⟩⟩
    exact ⟨by simpa [guard] using fits, snapshotEvery, retention, capacity, passivation, entities⟩
  · rintro ⟨fits, snapshotEvery, retention, capacity, passivation, entities⟩
    exact ⟨(), by simp [guard, fits], _, snapshotEvery, _, retention, _, capacity, _, passivation,
      _, entities, rfl⟩

/-- An object is read as the default settings with its fields in their place. -/
theorem ofJson?_object_eq_some_iff {members : List (String × Json)} {s : Settings} :
    ofJson? (.object members) = some s ↔ Overlaid members s := by
  unfold ofJson?
  refine ofFields?_eq_some_iff.trans ⟨?_, ?_⟩
  · rintro ⟨-, snapshotEvery, retention, capacity, passivation, entities⟩
    exact ⟨snapshotEvery, retention, capacity, passivation, entities⟩
  · rintro ⟨snapshotEvery, retention, capacity, passivation, entities⟩
    exact ⟨rfl, snapshotEvery, retention, capacity, passivation, entities⟩

end Settings

theorem Json.isOptional_written {α β : Type} {Is : Json → β → Prop} {write : α → Json}
    {kept : α → β} (is : ∀ a, Is (write a) (kept a)) (value : Option α) :
    IsOptional Is ((value.map write).getD .null) (value.map kept) := by
  cases value with
  | none => exact .null
  | some a => exact .some (is a)

theorem Json.field_ofMembers {α : Type} {Is : Json → α → Prop} {default a : α} {key : String}
    {value : Json} {members : List (String × Json)}
    (here : member? members.reverse key = some value) (is : Is value a) :
    Field Is default (member? (members.foldl
      (fun sorted member => insertEntry member.1 member.2 sorted) []) key) a := by
  rw [member?_ofMembers, here]
  exact .present is

theorem TypeSettings.written_toJson (s : TypeSettings) : Written s.toJson s := by
  obtain ⟨snapshotEvery⟩ := s
  have shown (n : Int64) : Json.IsInt64 (.int n.toInt) (id n) := rfl
  have field := Json.isOptional_written shown snapshotEvery
  rw [Option.map_id, id] at field
  exact .named (.present field)

theorem Json.isOverrides_written (d : Dictionary TypeSettings) :
    (object (d.mapValues TypeSettings.toJson).entries).IsOverrides d := by
  have written : IsOverrides (object (d.mapValues TypeSettings.toJson).entries)
      (Dictionary.ofList d.entries) :=
    .mk (List.forall₂_map_left_iff.mpr
      (List.forall₂_same.mpr fun entry _ => ⟨rfl, entry.2.written_toJson⟩))
  rwa [d.ofList_entries] at written

namespace Settings

def truncated (s : Settings) : Settings :=
  { s with
    retention := s.retention.truncate
    passivation := s.passivation.map Duration.truncate }

theorem overlaid_toJson (s : Settings) :
    ∃ members, s.toJson = .object members ∧ Overlaid members s.truncated := by
  have seconds (d : Duration) : Json.IsSeconds (.word d.seconds) d.truncate := ⟨_, rfl, rfl⟩
  refine ⟨_, rfl, ?snapshotEvery, ?retention, ?channelCapacity, ?passivation, ?entities⟩
  case snapshotEvery => exact Json.field_ofMembers (by simp [Json.member?_cons, truncated]) rfl
  case retention => exact Json.field_ofMembers (by simp [Json.member?_cons]) (seconds s.retention)
  case channelCapacity => exact Json.field_ofMembers (by simp [Json.member?_cons, truncated]) rfl
  case passivation =>
    exact Json.field_ofMembers (by simp [Json.member?_cons])
      (Json.isOptional_written seconds s.passivation)
  case entities =>
    exact Json.field_ofMembers (by simp [Json.member?_cons]) (Json.isOverrides_written s.entities)

@[simp] theorem ofJson?_toJson (s : Settings) : ofJson? s.toJson = some s.truncated := by
  obtain ⟨members, same, overlaid⟩ := s.overlaid_toJson
  rw [same, ofJson?_object_eq_some_iff]
  exact overlaid

theorem policyFor_truncated (s : Settings) (entityType : String) :
    s.truncated.policyFor entityType = s.policyFor entityType :=
  rfl

/-- Settings that have been read are in whole seconds. -/
theorem truncated_of_ofJson? {value : Json} {s : Settings} (read : ofJson? value = some s) :
    s.truncated = s := by
  obtain ⟨fields, -, made⟩ := Option.bind_eq_some_iff.mp read
  obtain ⟨-, -, retention, -, passivation, -⟩ := ofFields?_eq_some_iff.mp made
  have whole : s.retention.truncate = s.retention := by
    generalize fields.cell? 1 _ = cell, s.retention = d at retention
    obtain _ | ⟨n, -, rfl⟩ := retention <;> rfl
  have idle : s.passivation.map Duration.truncate = s.passivation := by
    generalize fields.cell? 3 _ = cell, s.passivation = d at passivation
    obtain _ | (_ | ⟨n, -, rfl⟩) := passivation <;> rfl
  rw [truncated, whole, idle]

/-- Settings survive being written and read but for the fractions of seconds, which no
snapshot policy depends on, and settings that have been read survive as they are. An object
can be read exactly if its fields can, and puts these into the default settings; its other
members do not matter. -/
theorem ofJson?_overlays :
    (∀ s : Settings, ofJson? s.toJson = some s.truncated ∧
      ∀ entityType, s.truncated.policyFor entityType = s.policyFor entityType) ∧
    (∀ members, (ofJson? (.object members)).isSome = true ↔
      ∀ field ∈ known, ∀ value, Json.member? members field.1 = some value → field.2 value) ∧
    (∀ members s, ofJson? (.object members) = some s ↔ Overlaid members s) ∧
    (∀ members, ofJson? (.object (trimmed members)) = ofJson? (.object members)) ∧
    ∀ value, ((ofJson? value).bind fun s => ofJson? s.toJson) = ofJson? value := by
  refine ⟨fun s => ⟨s.ofJson?_toJson, s.policyFor_truncated⟩, fun members => ?accepted,
    fun members s => ofJson?_object_eq_some_iff, fun members => ?others, fun value => ?again⟩
  case accepted =>
    simp only [← exists_overlaid_iff, Option.isSome_iff_exists, ofJson?_object_eq_some_iff]
  case others =>
    ext s
    rw [ofJson?_object_eq_some_iff, ofJson?_object_eq_some_iff, overlaid_trimmed]
  case again =>
    cases read : ofJson? value with
    | none => rfl
    | some s => rw [Option.bind_some, ofJson?_toJson, truncated_of_ofJson? read]

/-- No snapshots of orders, and those of all other entities at every fiftieth event. -/
example :
    ofJson? (.object [
      ("entities", .object [("order", .object [("snapshot_every", .int (-1))])]),
      ("snapshot_every", .int 50)]) =
    some { default with
      snapshotEvery := 50
      entities := .ofList [("order", ⟨some (-1)⟩)] } := by
  decide

end Settings

end EntityEngine
