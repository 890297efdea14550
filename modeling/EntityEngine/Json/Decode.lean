import EntityEngine.Json.Value
import EntityEngine.Text.Place
import EntityEngine.Text.Shown

/-!
# Decoding JSON values

Decoders of single values and of records, with the reason when they refuse. A
record is read from an object by the names of its fields or from an array by their
positions. Of several faults the first one met is reported: the members of an
object are met in key order and missing fields are noticed after them, in the order
of declaration; the items of an array are met in order. Where no one asks for the
reason, the same fields are read without it.
-/

namespace EntityEngine

inductive DecodeError where
  /-- A value of another kind than the wanted one. -/
  | wrongType (found : Json) (wanted : String)
  | outOfRange (found : Int) (wanted : String)
  /-- An object where a name was wanted, with none or several members. -/
  | ambiguousName
  | missingField (name : String)
  | wrongLength (length : Nat) (wanted : String)
  /-- A name that is none of the known ones. -/
  | unknownName (name : String) (known : List String)
  | refused (reason : String)
deriving DecidableEq

structure EncodeError where
  reason : String
deriving DecidableEq

def EncodeError.message (e : EncodeError) : String := Text.withPlainPlace e.reason

/-- How a refused value is called in the message. -/
def Json.description : Json → String
  | .null => "null"
  | .bool value => "boolean `" ++ (if value then "true" else "false") ++ "`"
  | .number (.integer n) => "integer `" ++ toString n ++ "`"
  | .number (.float x) => "floating point `" ++ x.text ++ "`"
  | .string text => "string " ++ Text.quoted text
  | .array _ => "sequence"
  | .object _ => "map"

namespace DecodeError

def namesText : List String → String
  | [] => "there are no variants"
  | [a] => "expected `" ++ a ++ "`"
  | [a, b] => "expected `" ++ a ++ "` or `" ++ b ++ "`"
  | names => "expected one of " ++ ", ".intercalate (names.map fun name => "`" ++ name ++ "`")

def message : DecodeError → String
  | wrongType found wanted => "invalid type: " ++ found.description ++ ", expected " ++ wanted
  | outOfRange found wanted =>
    "invalid value: integer `" ++ toString found ++ "`, expected " ++ wanted
  | ambiguousName => "invalid value: map, expected map with a single key"
  | missingField name => "missing field `" ++ name ++ "`"
  | wrongLength length wanted => "invalid length " ++ toString length ++ ", expected " ++ wanted
  | unknownName name known => "unknown variant `" ++ name ++ "`, " ++ namesText known
  | refused reason => Text.withPlainPlace reason

end DecodeError

namespace Json

def decodeUnit : Json → Except DecodeError Unit
  | null => .ok ()
  | value => .error (.wrongType value "unit")

/-- An integer from `low` up to but without `high`. -/
def decodeInteger (wanted : String) (low high : Int) : Json → Except DecodeError Int
  | number (.integer n) =>
    if low ≤ n ∧ n < high then .ok n else .error (.outOfRange n wanted)
  | value => .error (.wrongType value wanted)

def decodeInt64 (value : Json) : Except DecodeError Int64 :=
  (decodeInteger "i64" (-Int.pow 2 63) (Int.pow 2 63) value).map Int64.ofInt

def decodeUInt32 (value : Json) : Except DecodeError UInt32 :=
  (decodeInteger "u32" 0 (Int.pow 2 32) value).map fun n => UInt32.ofNat n.toNat

def decodeWord (value : Json) : Except DecodeError UInt64 :=
  (decodeInteger "u64" 0 (Int.pow 2 64) value).map fun n => UInt64.ofNat n.toNat

def decodeString : Json → Except DecodeError String
  | string text => .ok text
  | value => .error (.wrongType value "a string")

def decodeBool : Json → Except DecodeError Bool
  | bool value => .ok value
  | value => .error (.wrongType value "a boolean")

def string? (value : Json) : Option String := (decodeString value).toOption

def bool? (value : Json) : Option Bool := (decodeBool value).toOption

def word? (value : Json) : Option UInt64 := (decodeWord value).toOption

def int64? (value : Json) : Option Int64 := (decodeInt64 value).toOption

@[simp] theorem string?_string (text : String) : (string text).string? = some text := rfl

@[simp] theorem bool?_bool (b : Bool) : (bool b).bool? = some b := rfl

theorem decodeInteger_int {wanted : String} {low high n : Int} (range : low ≤ n ∧ n < high) :
    decodeInteger wanted low high (int n) = .ok n :=
  if_pos range

@[simp] theorem decodeInt64_int (n : Int64) : decodeInt64 (int n.toInt) = .ok n := by
  have range : -Int.pow 2 63 ≤ n.toInt ∧ n.toInt < Int.pow 2 63 := ⟨n.le_toInt, n.toInt_lt⟩
  rw [decodeInt64, decodeInteger_int range, Except.map, Int64.ofInt_toInt]

@[simp] theorem decodeUInt32_nat (n : UInt32) : decodeUInt32 (nat n.toNat) = .ok n := by
  have bound : (n.toNat : Int) < Int.pow 2 32 := Int.ofNat_lt.mpr n.toNat_lt
  rw [decodeUInt32, nat, decodeInteger_int ⟨Int.natCast_nonneg _, bound⟩, Except.map,
    Int.toNat_natCast, UInt32.ofNat_toNat]

@[simp] theorem decodeWord_word (n : UInt64) : decodeWord (word n) = .ok n := by
  have bound : (n.toNat : Int) < Int.pow 2 64 := Int.ofNat_lt.mpr n.toNat_lt
  rw [decodeWord, word, nat, decodeInteger_int ⟨Int.natCast_nonneg _, bound⟩, Except.map,
    Int.toNat_natCast, UInt64.ofNat_toNat]

@[simp] theorem word?_word (n : UInt64) : (word n).word? = some n := by
  rw [word?, decodeWord_word, Except.toOption]

@[simp] theorem int64?_int (n : Int64) : (int n.toInt).int64? = some n := by
  rw [int64?, decodeInt64_int, Except.toOption]

def knownName (known : List String) (name : String) : Except DecodeError String :=
  if known.contains name then .ok name else .error (.unknownName name known)

/-- A name out of `known`: a string, or an object whose one key is the name; the value
under that key comes along. -/
def decodeName (known : List String) : Json → Except DecodeError (String × Option Json)
  | string name => return (← knownName known name, none)
  | object [(name, value)] => return (← knownName known name, some value)
  | object _ => .error .ambiguousName
  | value => .error (.wrongType value "string or map")

end Json

/-- The fields of a record before they are read. -/
inductive Fields where
  | named (members : List (String × Json))
  | listed (items : List Json)

/-- A fault in a record, and how many members or items are met before it. -/
structure Fault where
  place : Nat
  error : DecodeError

/-- Two parts of a record. Of two faults the one that is met first counts. -/
def Fault.both {α β : Type} : Except Fault α → Except Fault β → Except Fault (α × β)
  | .ok a, .ok b => .ok (a, b)
  | .error fault, .ok _ => .error fault
  | .ok _, .error fault => .error fault
  | .error fault, .error other => .error (if other.place < fault.place then other else fault)

namespace Fields

def ofJson? : Json → Option Fields
  | .object members => some (named members)
  | .array items => some (listed items)
  | _ => none

def cell? (fields : Fields) (position : Nat) (name : String) : Option Json :=
  match fields with
  | named members => Json.member? members name
  | listed items => items[position]?

/-- How many members or items are met before a field. Missing ones come behind all. -/
def place (fields : Fields) (position : Nat) (name : String) : Nat :=
  match fields with
  | named members => members.findIdx fun member => member.1 == name
  | listed _ => position

/-- There are no more items than fields. -/
def fits (fields : Fields) (count : Nat) : Bool :=
  match fields with
  | named _ => true
  | listed items => items.length ≤ count

/-- What a field is read as, or what stands for it where it is missing. -/
def field {β : Type} (fields : Fields) (position : Nat) (name : String) (missing : β)
    (read : Json → β) : β :=
  match fields.cell? position name with
  | none => missing
  | some value => read value

variable {α : Type}

def decode (fields : Fields) (position : Nat) (name : String)
    (read : Json → Except DecodeError α) : Except Fault α :=
  let place := fields.place position name
  fields.field position name (.error ⟨place, .missingField name⟩) fun value =>
    (read value).mapError (Fault.mk place)

theorem decode_of_cell? {fields : Fields} {position : Nat} {name : String}
    {read : Json → Except DecodeError α} {value : Json} {a : α}
    (cell : fields.cell? position name = some value) (readable : read value = .ok a) :
    fields.decode position name read = .ok a := by
  unfold decode field
  rw [cell]
  exact congrArg (Except.mapError _) readable

def required (fields : Fields) (position : Nat) (name : String) (read : Json → Option α) :
    Option α :=
  fields.field position name none read

def withDefault (fields : Fields) (position : Nat) (name : String) (default : α)
    (read : Json → Option α) : Option α :=
  fields.field position name (some default) read

/-- A field that may be missing or `null`. -/
def optional (fields : Fields) (position : Nat) (name : String) (read : Json → Option α) :
    Option (Option α) :=
  fields.withDefault position name none fun value =>
    if value = .null then some none else (read value).map some

def tagged? (key : String) : Json → Option (Json × Fields)
  | .object members => (Json.member? members key).map fun tag => (tag, named members)
  | .array (tag :: items) => some (tag, listed items)
  | _ => none

end Fields

namespace Json

def elements (n : Nat) : String :=
  toString n ++ if n = 1 then " element" else " elements"

/-- A record that is read by the names of its fields only. -/
def decodeNamedRecord {ρ : Type} (wanted : String) (read : Fields → Except Fault ρ) :
    Json → Except DecodeError ρ
  | object members => (read (.named members)).mapError Fault.error
  | value => .error (.wrongType value wanted)

/-- A record of `count` fields. In an array that is too short its length is the fault. -/
def decodeRecord {ρ : Type} (wanted : String) (count : Nat) (read : Fields → Except Fault ρ) :
    Json → Except DecodeError ρ
  | array items =>
    match read (.listed items) with
    | .error fault =>
      if fault.place < items.length then .error fault.error
      else .error (.wrongLength items.length (wanted ++ " with " ++ elements count))
    | .ok record =>
      if items.length ≤ count then .ok record
      else .error (.wrongLength items.length "fewer elements in array")
  | value => decodeNamedRecord wanted read value

theorem decodeRecord_object {ρ : Type} {wanted : String} {count : Nat}
    {read : Fields → Except Fault ρ} {members : List (String × Json)} {record : ρ}
    (readable : read (.named members) = .ok record) :
    decodeRecord wanted count read (object members) = .ok record :=
  congrArg (Except.mapError Fault.error) readable

end Json

end EntityEngine
