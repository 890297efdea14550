import EntityEngine.Fault.Basic

/-!
# Position in an event log

How far an instance has advanced in its log: the number of the last event that was
applied and the number of the last snapshot taken or started from. Numbers are
64-bit words and wrap around.
-/

namespace EntityEngine

structure LogPosition where
  current : SequenceNumber
  lastSnapshot : SequenceNumber
deriving DecidableEq

namespace LogPosition

def start : LogPosition := ⟨0, 0⟩

def ofSnapshot (sequenceNumber : SequenceNumber) : LogPosition :=
  ⟨sequenceNumber, sequenceNumber⟩

/-- Take in the next event of the log. Any other number than the next one is refused. -/
def replay (p : LogPosition) (sequenceNumber : SequenceNumber) :
    Except Violation LogPosition :=
  if sequenceNumber = p.current + 1 then .ok { p with current := sequenceNumber }
  else .error (.sequenceGap (p.current + 1) sequenceNumber)

/-- The number of the last event after `count` more. -/
def after (p : LogPosition) (count : Nat) : SequenceNumber := p.current + UInt64.ofNat count

def advance (p : LogPosition) (count : Nat) : LogPosition := { p with current := p.after count }

def markSnapshot (p : LogPosition) (sequenceNumber : SequenceNumber) : LogPosition :=
  { p with lastSnapshot := sequenceNumber }

/-- Exactly the next number is taken in. -/
theorem replay_eq_ok_iff {p q : LogPosition} {n : SequenceNumber} :
    p.replay n = .ok q ↔ n = p.current + 1 ∧ q = { p with current := n } := by
  unfold replay
  split <;> simp_all [eq_comm]

@[simp] theorem current_advance (p : LogPosition) (count : Nat) :
    (p.advance count).current = p.current + UInt64.ofNat count := rfl

@[simp] theorem lastSnapshot_advance (p : LogPosition) (count : Nat) :
    (p.advance count).lastSnapshot = p.lastSnapshot := rfl

@[simp] theorem advance_zero (p : LogPosition) : p.advance 0 = p := by
  simp [advance, after]

end LogPosition

end EntityEngine
