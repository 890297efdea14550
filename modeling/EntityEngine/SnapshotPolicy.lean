import EntityEngine.Notice

/-!
# Snapshot policy

Whether the answer to a command carries a snapshot: when its events reach a
multiple of the policy's threshold, or never.
-/

namespace EntityEngine

inductive SnapshotPolicy where
  | every (n : UInt64) (positive : n ≠ 0)
  | never
deriving DecidableEq

namespace SnapshotPolicy

/-- The threshold that a setting of zero stands for. -/
def defaultEvery : UInt64 := 100

def default : SnapshotPolicy := every defaultEvery (by decide)

/-- The policy of a setting. Zero selects the default and a negative number never
takes snapshots. -/
def ofSetting (setting : Int64) : SnapshotPolicy :=
  if setting < 0 then never
  else if positive : setting.toUInt64 ≠ 0 then every setting.toUInt64 positive
  else default

def settingNotices (entityType : String) (setting : Int64) : List Notice :=
  if setting < 0 then [.snapshotsDisabled entityType setting] else []

def isDue (policy : SnapshotPolicy) (sequenceNumber : SequenceNumber) : Bool :=
  match policy with
  | every n _ => sequenceNumber % n == 0
  | never => false

/-- A snapshot is due at the multiples of the threshold. -/
theorem isDue_every_iff {n : UInt64} (positive : n ≠ 0) (sequenceNumber : SequenceNumber) :
    (every n positive).isDue sequenceNumber = true ↔ n.toNat ∣ sequenceNumber.toNat := by
  simp [isDue, ← UInt64.toNat_inj, Nat.dvd_iff_mod_eq_zero]

@[simp] theorem isDue_never (sequenceNumber : SequenceNumber) :
    never.isDue sequenceNumber = false := rfl

def shownText : SnapshotPolicy → String
  | every n _ => s!"Every({n.toNat})"
  | never => "Never"

end SnapshotPolicy

end EntityEngine
