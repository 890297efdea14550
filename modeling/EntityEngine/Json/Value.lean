import EntityEngine.Dictionary
import EntityEngine.Number.Binary64

/-!
# JSON values

The values that messages, states, events and payloads are made of. A number is
either an integer of the 64-bit ranges or a floating point number, and the two are
never confused. The members of an object are listed in increasing key order when
the object is built by `Json.ofMembers`, which the reader and every encoder use.
-/

namespace EntityEngine

inductive Number where
  | integer (value : Int)
  | float (value : Binary64)
deriving DecidableEq

inductive Json where
  | null
  | bool (value : Bool)
  | number (value : Number)
  | string (value : String)
  | array (items : List Json)
  | object (members : List (String × Json))

namespace Json

instance : Inhabited Json := ⟨null⟩

mutual

/-- Structural equality. -/
def same : Json → Json → Bool
  | null, null => true
  | bool a, bool b => a == b
  | number a, number b => a == b
  | string a, string b => a == b
  | array a, array b => sameItems a b
  | object a, object b => sameMembers a b
  | _, _ => false

def sameItems : List Json → List Json → Bool
  | [], [] => true
  | a :: as, b :: bs => same a b && sameItems as bs
  | _, _ => false

def sameMembers : List (String × Json) → List (String × Json) → Bool
  | [], [] => true
  | (k, a) :: as, (l, b) :: bs => k == l && same a b && sameMembers as bs
  | _, _ => false

end

mutual

theorem same_iff : ∀ a b : Json, same a b = true ↔ a = b
  | null, b => by cases b <;> simp [same]
  | bool a, b => by cases b <;> simp [same]
  | number a, b => by cases b <;> simp [same]
  | string a, b => by cases b <;> simp [same]
  | array a, b => by
    cases b with
    | array b => simpa [same] using sameItems_iff a b
    | _ => simp [same]
  | object a, b => by
    cases b with
    | object b => simpa [same] using sameMembers_iff a b
    | _ => simp [same]

theorem sameItems_iff : ∀ as bs : List Json, sameItems as bs = true ↔ as = bs
  | [], [] => by simp [sameItems]
  | [], _ :: _ => by simp [sameItems]
  | _ :: _, [] => by simp [sameItems]
  | a :: as, b :: bs => by simp [sameItems, same_iff a b, sameItems_iff as bs]

theorem sameMembers_iff : ∀ as bs : List (String × Json), sameMembers as bs = true ↔ as = bs
  | [], [] => by simp [sameMembers]
  | [], _ :: _ => by simp [sameMembers]
  | _ :: _, [] => by simp [sameMembers]
  | (k, a) :: as, (l, b) :: bs => by
    simp [sameMembers, same_iff a b, sameMembers_iff as bs]

end

instance : DecidableEq Json := fun a b => decidable_of_iff _ (same_iff a b)

/-- The integer `n`. -/
def int (n : Int) : Json := number (.integer n)

def nat (n : Nat) : Json := int n

def word (n : UInt64) : Json := nat n.toNat

/-- The object of `members`, sorted by key; the last member of a key wins. -/
def ofMembers (members : List (String × Json)) : Json :=
  object (members.foldl (fun sorted member => insertEntry member.1 member.2 sorted) [])

/-- A member that is written only when it has a value. -/
def optional (key : String) : Option Json → List (String × Json)
  | some value => [(key, value)]
  | none => []

/-- The value under `key` in a list of members. -/
def member? (members : List (String × Json)) (key : String) : Option Json :=
  (members.find? fun entry => entry.1 == key).map Prod.snd

/-- The value under `key` of an object. -/
def get? (value : Json) (key : String) : Option Json :=
  match value with
  | object members => member? members key
  | _ => none

def array? : Json → Option (List Json)
  | array items => some items
  | _ => none

mutual

/-- The text `mark` stands somewhere in the value as a string: by itself, as an item
or as a member's value at any depth, but not as a key. -/
def mentions (mark : String) : Json → Bool
  | string text => text == mark
  | array items => itemsMention mark items
  | object members => membersMention mark members
  | _ => false

def itemsMention (mark : String) : List Json → Bool
  | [] => false
  | item :: rest => mentions mark item || itemsMention mark rest

def membersMention (mark : String) : List (String × Json) → Bool
  | [] => false
  | (_, value) :: rest => mentions mark value || membersMention mark rest

end

end Json

end EntityEngine
