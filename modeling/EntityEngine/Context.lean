import EntityEngine.Fault.Basic
import EntityEngine.Tracing

/-!
# Command contexts

A handler learns about its command from a context. The context is good only while
the handler runs: a `Board` notes which contexts are active, and every accessor
asks it first. A handler may keep its context, but the copy is dead once the
handler has ended.
-/

namespace EntityEngine

/-- The contexts opened so far, by number, and those of them that are active. -/
structure Board where
  opened : Nat
  active : List Nat
deriving DecidableEq

structure Context where
  number : Nat
  entityId : EntityId
  /-- The number of the last event before the command. -/
  sequenceNumber : SequenceNumber
  operation : String
  commandId : UInt64
  metadata : Metadata
  trace : TraceHandle
deriving DecidableEq

namespace Board

def empty : Board := ⟨0, []⟩

def openContext (b : Board) (entityId : EntityId) (sequenceNumber : SequenceNumber)
    (operation : String) (commandId : UInt64) (metadata : Metadata) (trace : TraceHandle) :
    Context × Board :=
  (⟨b.opened, entityId, sequenceNumber, operation, commandId, metadata, trace⟩,
    ⟨b.opened + 1, b.opened :: b.active⟩)

def close (b : Board) (c : Context) : Board :=
  { b with active := b.active.filter (· ≠ c.number) }

end Board

namespace Context

/-- An active context outside of any channel, without tracing. -/
def detached (b : Board) (entityId : EntityId) (sequenceNumber : SequenceNumber)
    (operation : String) (commandId : UInt64) (metadata : Metadata) : Context × Board :=
  b.openContext entityId sequenceNumber operation commandId metadata .disabled

def isActive (c : Context) (b : Board) : Bool := b.active.contains c.number

/-- Ask the context for something, which it refuses when it is inactive. -/
def ask {α : Type} (c : Context) (b : Board) (answer : Context → α) : Except ContextError α :=
  if c.isActive b then .ok (answer c) else .error (.inactive c.operation)

def entityId? (c : Context) (b : Board) : Except ContextError EntityId := c.ask b entityId

def sequenceNumber? (c : Context) (b : Board) : Except ContextError SequenceNumber :=
  c.ask b sequenceNumber

def operation? (c : Context) (b : Board) : Except ContextError String := c.ask b operation

def commandId? (c : Context) (b : Board) : Except ContextError UInt64 := c.ask b commandId

def metadata? (c : Context) (b : Board) : Except ContextError Metadata := c.ask b metadata

def trace? (c : Context) (b : Board) : Except ContextError TraceHandle := c.ask b trace

theorem isActive_openContext (b : Board) (entityId : EntityId) (sequenceNumber : SequenceNumber)
    (operation : String) (commandId : UInt64) (metadata : Metadata) (trace : TraceHandle) :
    let (c, after) := b.openContext entityId sequenceNumber operation commandId metadata trace
    c.isActive after = true := by
  simp [Board.openContext, isActive]

@[simp] theorem isActive_close_self (b : Board) (c : Context) :
    c.isActive (b.close c) = false := by
  simp [Board.close, isActive]

theorem isActive_close_of_ne (b : Board) {c d : Context} (h : c.number ≠ d.number) :
    c.isActive (b.close d) = c.isActive b := by
  simp [Board.close, isActive, h]

/-- An active context answers and an inactive one names its operation. -/
theorem ask_eq_ok_iff {α : Type} (c : Context) (b : Board) (answer : Context → α) (a : α) :
    c.ask b answer = .ok a ↔ c.isActive b = true ∧ answer c = a := by
  unfold ask
  split <;> simp_all

theorem ask_of_inactive {α : Type} (c : Context) (b : Board) (answer : Context → α)
    (h : c.isActive b = false) : c.ask b answer = .error (.inactive c.operation) := by
  simp [ask, h]

end Context

end EntityEngine
