/-!
# Bounded queues

A first-in first-out queue between senders and one receiver. It refuses an item
when it is full or when its receiver is gone, and it is finished when it is empty
and no sender is left.
-/

namespace EntityEngine

structure Queue (α : Type) where
  capacity : Nat
  items : List α
  /-- How many senders are left. -/
  senders : Nat
  receiving : Bool

inductive Refusal where
  | full
  | closed
deriving DecidableEq

namespace Queue

variable {α : Type}

/-- The most items that a queue can be made for: three bits of a word are put to other
uses. -/
def maxCapacity : Nat := Nat.pow 2 61 - 1

def empty (capacity : Nat) : Queue α := ⟨capacity, [], 1, true⟩

def hasRoom (q : Queue α) : Bool := q.items.length < q.capacity

def push (q : Queue α) (item : α) : Except Refusal (Queue α) :=
  if !q.receiving then .error .closed
  else if q.hasRoom then .ok { q with items := q.items ++ [item] }
  else .error .full

inductive Found (α : Type) where
  | item (item : α) (rest : Queue α)
  | nothingYet
  /-- Nothing, and nothing will come. -/
  | finished

def pop (q : Queue α) : Found α :=
  match q.items with
  | item :: items => .item item { q with items }
  | [] => if q.senders = 0 then .finished else .nothingYet

def addSender (q : Queue α) : Queue α := { q with senders := q.senders + 1 }

def dropSender (q : Queue α) : Queue α := { q with senders := q.senders - 1 }

def dropSenders (q : Queue α) : Queue α := { q with senders := 0 }

/-- The receiver is gone, and with it what was queued. -/
def dropReceiver (q : Queue α) : Queue α := { q with items := [], receiving := false }

/-- An item is queued behind the others if the receiver is there and has room for it. -/
theorem push_eq_ok_iff {q r : Queue α} {item : α} :
    q.push item = .ok r ↔
      q.receiving = true ∧ q.hasRoom = true ∧ r = { q with items := q.items ++ [item] } := by
  unfold push
  cases receiving : q.receiving with
  | false => simp
  | true =>
    cases room : q.hasRoom with
    | false => simp
    | true => simp [eq_comm]

theorem pop_eq_item_iff {q r : Queue α} {item : α} :
    q.pop = .item item r ↔ q.items = item :: r.items ∧ r = { q with items := r.items } := by
  unfold pop
  split
  · rename_i items h
    constructor
    · intro h'
      cases h'
      exact ⟨h, rfl⟩
    · rintro ⟨h₁, h₂⟩
      rw [h] at h₁
      cases h₁
      rw [h₂]
  · rename_i h
    constructor
    · intro h'
      split at h' <;> cases h'
    · rintro ⟨h₁, -⟩
      rw [h] at h₁
      cases h₁

end Queue

end EntityEngine
