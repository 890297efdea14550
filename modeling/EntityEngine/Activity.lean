import EntityEngine.Context
import EntityEngine.Effect

/-!
# The activity of a handler

What a handler still has to do, as a value: it has finished, it panics, it sleeps
for some time, it hangs for ever, or it uses the memory that the handlers of its
entity share. Running an activity goes on until it ends or has to wait.
-/

namespace EntityEngine

inductive Activity (M S E : Type) where
  | finished (result : Except HandlerError (Effect S E))
  | panicked (crash : Crash)
  /-- Sleep for some nanoseconds, then go on. -/
  | asleep (span : Nat) (rest : Activity M S E)
  | hung
  /-- Go on with what the shared memory and the board of contexts hold. -/
  | recalling (next : M → Board → Activity M S E)
  | remembering (memory : M) (rest : Activity M S E)

inductive Progress (M S E : Type) where
  | ended (result : Except HandlerError (Effect S E))
  | panicked (crash : Crash)
  | sleeping (span : Nat) (rest : Activity M S E)
  | hanging

namespace Activity

variable {M S E : Type}

def done (effect : Effect S E) : Activity M S E := finished (.ok effect)

def fail (error : HandlerError) : Activity M S E := finished (.error error)

/-- Go on until the activity ends or has to wait. Sleeping for no time does not wait. -/
def run (board : Board) (memory : M) : Activity M S E → Progress M S E × M
  | finished result => (.ended result, memory)
  | panicked crash => (.panicked crash, memory)
  | asleep 0 rest => rest.run board memory
  | asleep (span + 1) rest => (.sleeping (span + 1) rest, memory)
  | hung => (.hanging, memory)
  | recalling next => (next memory board).run board memory
  | remembering memory rest => rest.run board memory

@[simp] theorem run_done (board : Board) (memory : M) (effect : Effect S E) :
    (done effect).run board memory = (.ended (.ok effect), memory) := rfl

@[simp] theorem run_fail (board : Board) (memory : M) (error : HandlerError) :
    (fail error : Activity M S E).run board memory = (.ended (.error error), memory) := rfl

/-- The activity depends on nothing but its own value: it does not use the memory. -/
inductive Plain : Activity M S E → Prop
  | finished (result : Except HandlerError (Effect S E)) : Plain (finished result)
  | panicked (crash : Crash) : Plain (panicked crash)
  | asleep (span : Nat) {rest : Activity M S E} : Plain rest → Plain (asleep span rest)
  | hung : Plain hung

end Activity

end EntityEngine
