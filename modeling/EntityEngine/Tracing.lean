import EntityEngine.Message.Basic

/-!
# Tracing commands

A tracer is told when the processing of a command starts and how it ended. At the
start it gives a handle, which the command's context shows to the handler. What a
tracer is told is recorded as a list of `TraceCall`s.
-/

namespace EntityEngine

/-- The metadata key that carries the caller's trace context. -/
def traceparentKey : String := "traceparent"

structure SpanInfo where
  entityType : String
  entityId : EntityId
  operation : String
  commandId : UInt64
  metadata : Metadata
deriving DecidableEq

inductive SpanOutcome where
  | replied
  | rejected
  | failed
deriving DecidableEq

namespace SpanOutcome

def all : List SpanOutcome := [replied, rejected, failed]

def name : SpanOutcome → String
  | replied => "replied"
  | rejected => "rejected"
  | failed => "failed"

def ofName? (text : String) : Option SpanOutcome := all.find? fun outcome => outcome.name == text

end SpanOutcome

structure Span where
  name : String
  fields : Dictionary String
deriving DecidableEq

/-- What a tracer gives for a command: its span, if it keeps one, and the trace context
to pass on. -/
structure TraceHandle where
  span : Option Span
  traceparent : Option String
deriving DecidableEq

def TraceHandle.disabled : TraceHandle := ⟨none, none⟩

/-- A tracer is known by the handles it gives. -/
structure Tracer where
  start : SpanInfo → TraceHandle

namespace Tracer

/-- Keeps no span and passes the caller's trace context on. -/
def silent : Tracer :=
  ⟨fun info => ⟨none, info.metadata.get? traceparentKey⟩⟩

def logging : Tracer :=
  ⟨fun info =>
    let traceparent := info.metadata.get? traceparentKey
    { span := some
        { name := "command"
          fields := .ofList [
            ("entity_type", info.entityType),
            ("entity_id", info.entityId.text),
            ("operation", info.operation),
            ("command_id", toString info.commandId.toNat),
            ("traceparent", traceparent.getD "")] }
      traceparent }⟩

/-- Marks the caller's trace context, or an empty one. -/
def marking : Tracer :=
  ⟨fun info => ⟨none, some ("rec:" ++ (info.metadata.get? traceparentKey).getD "-")⟩⟩

end Tracer

/-- Write the outcome into the handle's span. -/
def TraceHandle.finish (handle : TraceHandle) (outcome : SpanOutcome) : TraceHandle :=
  { handle with span := handle.span.map fun span =>
      { span with fields := span.fields.insert "outcome" outcome.name } }

inductive TraceCall where
  | started (info : SpanInfo) (handle : TraceHandle)
  | ended (handle : TraceHandle) (outcome : SpanOutcome)
deriving DecidableEq

end EntityEngine
