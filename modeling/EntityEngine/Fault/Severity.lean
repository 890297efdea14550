import EntityEngine.Fault.Basic

/-!
# Phases and severity

A channel awaits its `Init`, replays events, is active from the first command or
snapshot request on, and ends terminated by a fatal fault. A fault is a protocol
violation, a business rejection, or unexpected. Violations end their channel,
rejections never do, and an unexpected fault ends it unless the channel is active.
-/

namespace EntityEngine

inductive Phase where
  | awaitingInit
  | replaying
  | active
  | terminated
deriving DecidableEq

namespace Phase

def all : List Phase := [awaitingInit, replaying, active, terminated]

def name : Phase → String
  | awaitingInit => "AwaitingInit"
  | replaying => "Replaying"
  | active => "Active"
  | terminated => "Terminated"

def ofName? (text : String) : Option Phase := all.find? fun phase => phase.name == text

end Phase

inductive Severity where
  | protocol
  | validation
  | unexpected
deriving DecidableEq

namespace Severity

def all : List Severity := [protocol, validation, unexpected]

def name : Severity → String
  | protocol => "Protocol"
  | validation => "Validation"
  | unexpected => "Unexpected"

def ofName? (text : String) : Option Severity := all.find? fun tier => tier.name == text

/-- Whether a fault of this severity ends a channel that is in `phase`. -/
def isFatalIn (severity : Severity) (phase : Phase) : Bool :=
  match severity with
  | protocol => true
  | validation => false
  | unexpected => phase ≠ .active

end Severity

/-- Explicit rejections and payloads that do not decode are validation failures;
everything else about a command is unexpected. -/
def CommandError.severity : CommandError → Severity
  | handler (.rejected ..) => .validation
  | invalidPayload .. => .validation
  | _ => .unexpected

end EntityEngine
