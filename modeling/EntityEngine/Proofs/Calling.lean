import EntityEngine.Proofs.Answers
import EntityEngine.Proofs.Contexts
import EntityEngine.Proofs.Remembrance

/-!
# Calling over a channel

A host opens a channel, queues one `Init` and from then on only calls: it sends a command and
takes the next answer, whatever that is. Others open and look up channels, clone and drop
handles and wait, workers make their steps and time passes, in any order. Nothing in a call
looks at whose answer it takes. That it is the right one rests on what holds between the calls:
there is no answer in the queue then, and the worker has no command to deal with.
-/

namespace EntityEngine

/-- The activity can come to sleep, with this left to be done. -/
def Activity.Leaves {M S E : Type} (activity rest : Activity M S E) : Prop :=
  ∃ board memory span after, activity.run board memory = (.sleeping span rest, after)

/-- No handler sleeps for ever: what is left of it is part of what it was. -/
theorem Activity.wellFounded_leaves {M S E : Type} :
    WellFounded fun rest activity : Activity M S E => activity.Leaves rest := by
  have within (activity : Activity M S E) : ∀ rest, activity.Leaves rest →
      Acc (fun rest activity : Activity M S E => activity.Leaves rest) rest := by
    induction activity with
    | finished result => rintro rest ⟨board, memory, span, after, ⟨⟩⟩
    | panicked crash => rintro rest ⟨board, memory, span, after, ⟨⟩⟩
    | hung => rintro rest ⟨board, memory, span, after, ⟨⟩⟩
    | asleep span later ih =>
        cases span with
        | zero => exact ih
        | succ span =>
            rintro rest ⟨board, memory, span', after, ⟨⟩⟩
            exact ⟨_, ih⟩
    | recalling next ih =>
        rintro rest ⟨board, memory, span, after, left⟩
        exact ih memory board rest ⟨board, memory, span, after, left⟩
    | remembering memory later ih =>
        rintro rest ⟨board, memory', span, after, left⟩
        exact ih rest ⟨board, memory, span, after, left⟩
  exact ⟨fun activity => ⟨activity, within activity⟩⟩

namespace Session

variable {E : Entity} {s : Session E} {id : EntityId}

/-- The session takes commands for its entity. -/
structure ActiveFor (id : EntityId) (s : Session E) : Prop where
  active : s.phase = .active
  own : s.identity = some id

/-- A step on behalf of a command: the command is answered under its own number, or its handler
goes on under that number, or everything ends. -/
inductive CommandStep (id : EntityId) (commandId : UInt64) (step : Step E) : Prop
  | crashed {crash : Crash} (crashed : step.response = .crashed crash)
  | answered {out : Outbound} (answered : step.response = .answered out)
      (answers : out.Answers commandId) (activeFor : step.session.ActiveFor id)
  | calling {call : Call E} (calling : step.response = .calling call)
      (ticket : call.ticket.commandId = commandId) (activeFor : step.session.ActiveFor id)

theorem CommandStep.preceded {commandId : UInt64} {step : Step E}
    (h : CommandStep id commandId step)
    (notices : List Notice) (calls : List TraceCall) :
    CommandStep id commandId (step.preceded notices calls) := by
  cases h with
  | crashed crashed => exact .crashed crashed
  | answered answered answers activeFor => exact .answered answered answers activeFor
  | calling calling ticket activeFor => exact .calling calling ticket activeFor

theorem ActiveFor.refuse (activeFor : s.ActiveFor id) (shared : Shared E.Memory) (ticket : Ticket)
    (e : CommandError) : CommandStep id ticket.commandId (s.refuse shared ticket e) := by
  obtain ⟨correlation, same, answered⟩ := refuse_active activeFor.active shared ticket e
  refine .answered answered (e.answers_answer ticket.commandId correlation) ?_
  rw [same]
  exact activeFor

theorem ActiveFor.conclude (activeFor : s.ActiveFor id) (shared : Shared E.Memory) (ticket : Ticket)
    (ending : Except CommandError (Effect E.State E.Event)) :
    CommandStep id ticket.commandId (s.conclude shared ticket ending) := by
  unfold Session.conclude
  cases ending with
  | error e => exact activeFor.refuse (abandon shared ticket) ticket e
  | ok effect =>
      cases s.present with
      | error crash => exact .crashed rfl
      | ok life =>
          have living : ({ s with incarnation := some life } : Session E).ActiveFor id :=
            ⟨activeFor.active, activeFor.own⟩
          simp only
          split
          · next result _ =>
              obtain ⟨phase, -, identity⟩ :=
                settle_frame ({ s with incarnation := some life } : Session E) (.granted result)
              exact .answered rfl (.reply rfl)
                ⟨phase.trans living.active, identity.trans living.own⟩
          · exact living.refuse (abandon shared ticket) ticket _

theorem ActiveFor.launch (activeFor : s.ActiveFor id) (shared : Shared E.Memory) (command : Command)
    (life : Incarnation E.State) :
    CommandStep id command.commandId (s.launch shared command life) := by
  unfold Session.launch
  simp only
  split
  · exact .calling rfl rfl activeFor
  · exact .crashed rfl
  · exact (activeFor.conclude _ ⟨command.commandId, _, _, _⟩ _).preceded _ _

theorem commandStep_begin (live : s.Live) (own : s.identity = some id) (shared : Shared E.Memory)
    {command : Command} (addressed : command.entityId = id) :
    CommandStep id command.commandId (s.begin shared (.command command)) := by
  rw [begin_command_of_live live, receiveCommand, if_pos (own.trans (congrArg some addressed.symm))]
  have phase := ({ s with phase := .active } : Session E).phase_revive
  have frame := ({ s with phase := .active } : Session E).frame_revive
  generalize ({ s with phase := .active } : Session E).revive = revived at phase frame ⊢
  obtain ⟨t, notices, crash | life⟩ := revived
  · exact .crashed rfl
  · have activeFor : t.ActiveFor id := ⟨phase, frame.identity.trans own⟩
    exact (activeFor.launch shared command life).preceded _ _

/-- The `Init` ends the session, whatever the channels share. -/
def EndsOnInit (s : Session E) (init : Init) : Prop :=
  ∀ shared, (s.begin shared (.init init)).session.phase = .terminated

/-- How a new session takes its `Init`. -/
inductive InitStep (o : Options) (id : EntityId) (init : Init) (step : Step E) : Prop
  | crashed {crash : Crash} (crashed : step.response = .crashed crash)
  | opened (quiet : step.response = .quiet) (live : step.session.Live)
      (own : step.session.identity = some id)
  | failed {failure : Failure} (failed : step.response = .answered (.failure failure))
      (uncommanded : failure.commandId = none) (closed : step.session.phase = .terminated)
      (endsOnInit : (fresh o : Session E).EndsOnInit init)

theorem initStep_begin {o : Options} (expected : o.expectedEntity = some id) (init : Init)
    (shared : Shared E.Memory) :
    InitStep o id init ((fresh o : Session E).begin shared (.init init)) := by
  have begun (shared : Shared E.Memory) : (fresh o : Session E).begin shared (.init init) =
      (fresh o : Session E).receiveInit shared init := rfl
  by_cases own : init.entityId = id
  · let named : Session E := { (fresh o : Session E) with identity := some init.entityId }
    have admits : (fresh o : Session E).options.expectedEntity.filter (· ≠ init.entityId) = none :=
      (filter_ne_eq_none_iff o init.entityId).mpr fun _ => by
        rw [expected, own]
        exact (Option.some.inj · |>.symm)
    cases seeded : seed (E := E) (named.admitSnapshot init.snapshot).1 with
    | error e =>
        have failed (shared : Shared E.Memory) : (fresh o : Session E).begin shared (.init init) =
            (named.failRecovery shared e).preceded (named.admitSnapshot init.snapshot).2 [] := by
          rw [begun, receiveInit, admits]
          simp only [named] at seeded ⊢
          rw [seeded]
        rw [failed]
        exact .failed rfl rfl rfl fun other => by rw [failed]; rfl
    | ok attempt =>
        rw [begun, receiveInit, admits]
        simp only [named] at seeded ⊢
        rw [seeded]
        cases attempt with
        | error crash => exact .crashed rfl
        | ok life => exact .opened rfl (.inl rfl) (congrArg some own)
  · have other : (fresh o : Session E).options.expectedEntity.filter (· ≠ init.entityId) =
        some id := by
      simp [fresh, expected, Ne.symm own]
    have failed (shared : Shared E.Memory) : (fresh o : Session E).begin shared (.init init) =
        (fresh o : Session E).violate shared (.entityMismatch id init.entityId) none := by
      rw [begun, receiveInit, other]
    rw [failed]
    exact .failed rfl rfl rfl fun other => by rw [failed]; rfl

end Session

def queued (asked : Option Command) : List Inbound := asked.toList.map .command

inductive Stage.For {E : Entity} (commandId : UInt64) : Stage E → Prop
  | running {call : Call E} (own : call.ticket.commandId = commandId) :
      For commandId (.running call)
  | sleeping {wake : Instant} {call : Call E} (own : call.ticket.commandId = commandId) :
      For commandId (.sleeping wake call)
  | hanging {ticket : Ticket} (own : ticket.commandId = commandId) : For commandId (.hanging ticket)
  | ended {ticket : Ticket} {ending : Except CommandError (Effect E.State E.Event)}
      (own : ticket.commandId = commandId) : For commandId (.ended ticket ending)
  | delivering {out : Outbound} (answers : out.Answers commandId) : For commandId (.delivering out)

namespace Worker

variable {E : Entity} {w : Worker E} {id : EntityId} {o : Options} {init : Init}
  {asked : Option Command} {unread : List Outbound} {now : Instant} {shared : Shared E.Memory}
  {stride : Stride E}

/-- The worker is there, and its host has still to take these answers. -/
structure Linked (w : Worker E) (unread : List Outbound) : Prop where
  listening : w.inbound.receiving = true
  heard : w.outbound.receiving = true
  answering : w.outbound.senders ≠ 0
  unread : w.outbound.items = unread
  roomIn : 0 < w.inbound.capacity
  roomOut : 0 < w.outbound.capacity

/-- The worker has ended, and its host has still to take these answers. -/
structure Disconnected (w : Worker E) (unread : List Outbound) : Prop where
  ended : w.hasEnded = true
  deaf : w.inbound.receiving = false
  silent : w.outbound.senders = 0
  unread : w.outbound.items = unread

theorem Linked.congr {other : List Outbound} (linked : w.Linked unread) (same : unread = other) :
    w.Linked other :=
  same ▸ linked

theorem Disconnected.congr {other : List Outbound} (disconnected : w.Disconnected unread)
    (same : unread = other) :
    w.Disconnected other :=
  same ▸ disconnected

theorem Disconnected.not_step (disconnected : w.Disconnected unread) :
    w.step? now shared ≠ some stride := by
  intro step
  cases (hasEnded_of_step? step).symm.trans disconnected.ended

structure New (o : Options) (messages : List Inbound) (w : Worker E) : Prop where
  session : w.session = .fresh o
  still : w.stage = .starting ∨ ∃ since, w.stage = .waiting since
  items : w.inbound.items = messages

/-- The worker has the `Init` before it, or the failure that the `Init` came to. -/
inductive Opens (o : Options) (init : Init) (asked : Option Command) (w : Worker E) : Prop
  | unread (new : w.New o (.init init :: queued asked))
  | channelFailed {failure : Failure} (stage : w.stage = .delivering (.failure failure))
      (uncommanded : failure.commandId = none) (closed : w.session.phase = .terminated)
      (endsOnInit : (Session.fresh o : Session E).EndsOnInit init)

/-- The worker takes commands for its entity, and deals with the one that was asked, if any. -/
inductive HandlesCommands (id : EntityId) (asked : Option Command) (w : Worker E) : Prop
  | idle {since : Instant} (stage : w.stage = .waiting since) (live : w.session.Live)
      (own : w.session.identity = some id) (items : w.inbound.items = queued asked)
  | busy {command : Command} (asks : asked = some command) (stage : w.stage.For command.commandId)
      (activeFor : w.session.ActiveFor id) (items : w.inbound.items = [])

structure Listens (w w' : Worker E) : Prop where
  receiving : w'.inbound.receiving = (!w'.hasEnded && w.inbound.receiving)
  capacity : w'.inbound.capacity = w.inbound.capacity

theorem listens_afterMessage (now : Instant) (w : Worker E) : w.Listens (w.afterMessage now) := by
  unfold afterMessage
  split <;> exact ⟨rfl, rfl⟩

theorem listens_absorb (now : Instant) (w : Worker E) (step : Step E) :
    w.Listens (w.absorb now step).worker := by
  obtain ⟨session, shared, notices, calls, response⟩ := step
  cases response with
  | quiet =>
      have listens := listens_afterMessage now { w with session }
      exact ⟨listens.receiving, listens.capacity⟩
  | _ => exact ⟨rfl, rfl⟩

theorem listens_runHandler (now : Instant) (w : Worker E) (shared : Shared E.Memory)
    (call : Call E) : w.Listens (w.runHandler now shared call).worker := by
  unfold runHandler
  cases Session.advance shared call with
  | mk progress after => cases progress <;> exact ⟨rfl, rfl⟩

theorem Strides.listens (h : Strides now w shared stride) : w.Listens stride.worker := by
  cases h with
  | started stage => exact ⟨rfl, rfl⟩
  | @took since message rest stage items =>
      have listens := listens_absorb now { w with inbound := { w.inbound with items := rest } }
        (w.session.begin shared message)
      exact ⟨listens.receiving, listens.capacity⟩
  | emptied stage items closed => exact ⟨rfl, rfl⟩
  | idled stage items idle => exact ⟨rfl, rfl⟩
  | ran stage => exact w.listens_runHandler now shared _
  | woke stage due => exact w.listens_runHandler now shared _
  | concluded stage => exact w.listens_absorb now _
  | @delivered message stage receiving =>
      have listens := listens_afterMessage now { w with
        outbound := { w.outbound with items := w.outbound.items ++ [message] } }
      exact ⟨listens.receiving, listens.capacity⟩
  | undelivered stage closed => exact ⟨rfl, rfl⟩

theorem Strides.linked (h : Strides now w shared stride) (linked : w.Linked unread)
    (going : stride.worker.hasEnded = false) :
    stride.worker.Linked stride.worker.outbound.items where
  listening := by rw [h.listens.receiving, going, linked.listening]; rfl
  heard := h.keeps.receiving.trans linked.heard
  answering := by
    rw [h.keeps.senders, going]
    exact linked.answering
  unread := rfl
  roomIn := h.listens.capacity ▸ linked.roomIn
  roomOut := h.keeps.capacity ▸ linked.roomOut

theorem Strides.disconnected (h : Strides now w shared stride)
    (ended : stride.worker.hasEnded = true) :
    stride.worker.Disconnected stride.worker.outbound.items where
  ended := ended
  deaf := by rw [h.listens.receiving, ended]; rfl
  silent := by rw [h.keeps.senders, ended]; rfl
  unread := rfl

/-- How many steps the worker is from having dealt with its messages, but for the naps of a
handler. -/
def distance (w : Worker E) : Nat :=
  match w.stage with
  | .starting => w.inbound.items.length + 4
  | .waiting _ => w.inbound.items.length + 3
  | .running _ | .sleeping .. => 3
  | .ended .. => 2
  | .delivering _ => 1
  | _ => 0

def activity (w : Worker E) : Activity E.Memory E.State E.Event :=
  match w.stage with
  | .running call | .sleeping _ call => call.activity
  | _ => .hung

def Nears (w' w : Worker E) : Prop :=
  Prod.Lex (· < ·) (fun rest activity => activity.Leaves rest)
    (w'.distance, w'.activity) (w.distance, w.activity)

theorem nears_of_lt {w' : Worker E} (less : w'.distance < w.distance) : w'.Nears w :=
  .left _ _ less

/-- What a step comes to of a worker that takes commands. -/
inductive HandlingStep (id : EntityId) (asked : Option Command) (w w' : Worker E) : Prop
  | handling (linked : w'.Linked []) (handles : w'.HandlesCommands id asked) (nears : w'.Nears w)
  | answered {command : Command} {out : Outbound} (asks : asked = some command)
      (answers : out.Answers command.commandId) (linked : w'.Linked [out])
      (rests : w'.HandlesCommands id none)
  | disconnected (disconnected : w'.Disconnected [])

/-- What a step comes to of a worker that has its `Init` to deal with. -/
inductive OpeningStep (o : Options) (id : EntityId) (init : Init) (asked : Option Command)
    (w w' : Worker E) : Prop
  | opening (linked : w'.Linked []) (opens : w'.Opens o init asked) (nears : w'.Nears w)
  | channelFailed {failure : Failure} (uncommanded : failure.commandId = none)
      (endsOnInit : (Session.fresh o : Session E).EndsOnInit init)
      (disconnected : w'.Disconnected [.failure failure])
  | dealt (handlingStep : HandlingStep id asked w w')

inductive Absorbed (id : EntityId) (command : Command) (step : Step E) (w' : Worker E) : Prop
  | ended (ended : w'.hasEnded = true)
  | handles (going : w'.hasEnded = false) (handles : w'.HandlesCommands id (some command))
      (near : w'.distance = 1 ∨ w'.distance = 3 ∧ ∃ call, step.response = .calling call)

theorem absorbed (now : Instant) {command : Command} {step : Step E}
    (commandStep : Session.CommandStep id command.commandId step) (items : w.inbound.items = []) :
    (w.absorb now step).worker.outbound.items = w.outbound.items ∧
      Absorbed id command step (w.absorb now step).worker := by
  obtain ⟨session, after, notices, calls, response⟩ := step
  cases commandStep with
  | crashed crashed =>
      obtain rfl : response = _ := crashed
      exact ⟨rfl, .ended rfl⟩
  | answered answered answers activeFor =>
      obtain rfl : response = _ := answered
      exact ⟨rfl, .handles rfl (.busy rfl (.delivering answers) activeFor items) (.inl rfl)⟩
  | calling calling own activeFor =>
      obtain rfl : response = _ := calling
      exact ⟨rfl, .handles rfl (.busy rfl (.running own) activeFor items) (.inr ⟨rfl, _, rfl⟩)⟩

theorem Absorbed.handlingStep {command : Command} {step : Step E} {w' : Worker E}
    (absorbed : Absorbed id command step w') (linked : w'.hasEnded = false → w'.Linked [])
    (disconnected : w'.hasEnded = true → w'.Disconnected [])
    (less : w'.distance = 1 ∨ w'.distance = 3 ∧ (∃ call, step.response = .calling call) →
      w'.distance < w.distance) : HandlingStep id (some command) w w' := by
  cases absorbed with
  | ended ended => exact .disconnected (disconnected ended)
  | handles going handles near => exact .handling (linked going) handles (nears_of_lt (less near))

theorem afterMessage_of_live (now : Instant) (live : w.session.Live) :
    w.afterMessage now = { w with stage := .waiting now } := by
  have going : w.session.phase ≠ .terminated := by
    rcases live with phase | phase <;> simp [phase]
  rw [afterMessage, if_neg going]

theorem New.strides (new : w.New o (.init init :: queued asked))
    (expected : o.expectedEntity = some id) (linked : w.Linked [])
    (h : Strides now w shared stride) : OpeningStep o id init asked w stride.worker := by
  have link := h.linked linked
  have hang := h.disconnected
  obtain ⟨session, still, items⟩ := new
  cases h with
  | started stage =>
      refine .opening ((link rfl).congr linked.unread) (.unread ⟨session, .inr ⟨now, rfl⟩, items⟩)
        (nears_of_lt ?_)
      simp only [distance, stage]
      omega
  | @took since message rest stage found =>
      obtain ⟨rfl, rfl⟩ := List.cons.inj (found.symm.trans items)
      have initStep := Session.initStep_begin (E := E) expected init shared
      rw [session] at link hang ⊢
      generalize (Session.fresh o : Session E).begin shared (.init init) = step at *
      obtain ⟨t, after, notices, calls, response⟩ := step
      cases initStep with
      | crashed crashed =>
          obtain rfl : response = _ := crashed
          exact .dealt (.disconnected ((hang rfl).congr linked.unread))
      | opened quiet live own =>
          obtain rfl : response = _ := quiet
          have waits := afterMessage_of_live now
            (w := { w with session := t, inbound := { w.inbound with items := queued asked } }) live
          simp only [absorb, waits] at link ⊢
          refine .dealt (.handling ((link rfl).congr linked.unread) (.idle rfl live own rfl)
            (nears_of_lt ?_))
          simp only [distance, stage, items, List.length_cons]
          omega
      | failed failed uncommanded closed endsOnInit =>
          obtain rfl : response = _ := failed
          refine .opening ((link rfl).congr linked.unread)
            (.channelFailed rfl uncommanded closed endsOnInit)
            (nears_of_lt ?_)
          simp only [distance, stage, items, absorb, List.length_cons]
          omega
  | emptied stage none => cases none.symm.trans items
  | idled stage none => cases none.symm.trans items
  | ran stage | woke stage | concluded stage | delivered stage | undelivered stage =>
      rcases still with still | ⟨since, still⟩ <;> cases still.symm.trans stage

/-- A new worker without messages can only begin to wait, or stop. -/
theorem New.rests (new : w.New o []) (linked : w.Linked []) (h : Strides now w shared stride) :
    stride.worker.Linked [] ∧ stride.worker.New o [] ∨ stride.worker.Disconnected [] := by
  have link := h.linked linked
  have hang := h.disconnected
  obtain ⟨session, still, items⟩ := new
  cases h with
  | started stage =>
      exact .inl ⟨(link rfl).congr linked.unread, session, .inr ⟨now, rfl⟩, items⟩
  | took stage found => cases found.symm.trans items
  | emptied stage none => exact .inr ((hang rfl).congr linked.unread)
  | idled stage none => exact .inr ((hang rfl).congr linked.unread)
  | ran stage | woke stage | concluded stage | delivered stage | undelivered stage =>
      rcases still with still | ⟨since, still⟩ <;> cases still.symm.trans stage

theorem Opens.strides (opens : w.Opens o init asked) (expected : o.expectedEntity = some id)
    (linked : w.Linked []) (h : Strides now w shared stride) :
    OpeningStep o id init asked w stride.worker := by
  cases opens with
  | unread new => exact new.strides expected linked h
  | @channelFailed failure told uncommanded closed endsOnInit =>
      have hang := h.disconnected
      cases h with
      | delivered stage receiving =>
          obtain rfl := Stage.delivering.inj (stage.symm.trans told)
          simp only [afterMessage, closed, if_true] at hang ⊢
          have unread : w.outbound.items ++ [.failure failure] = [.failure failure] := by
            rw [linked.unread, List.nil_append]
          exact .channelFailed uncommanded endsOnInit ((hang rfl).congr unread)
      | undelivered stage deaf => cases deaf.symm.trans linked.heard
      | started stage | took stage | emptied stage | idled stage | ran stage | woke stage
      | concluded stage => cases stage.symm.trans told

theorem handlesCommands_runHandler (now : Instant) (shared : Shared E.Memory) {command : Command}
    {call : Call E}
    (stage : w.stage = .running call ∨ ∃ wake, w.stage = .sleeping wake call)
    (own : call.ticket.commandId = command.commandId) (activeFor : w.session.ActiveFor id)
    (items : w.inbound.items = []) :
    let w' := (w.runHandler now shared call).worker
    w'.hasEnded = false ∧ w'.outbound = w.outbound ∧ w'.HandlesCommands id (some command) ∧
      w'.Nears w := by
  have here : w.distance = 3 ∧ w.activity = call.activity := by
    rcases stage with stage | ⟨wake, stage⟩ <;> simp only [distance, activity, stage, and_self]
  have falls {w' : Worker E} (less : w'.distance < 3) : w'.Nears w :=
    nears_of_lt (here.1.symm ▸ less)
  unfold runHandler Session.advance
  cases ran : call.activity.run shared.board shared.memory with
  | mk progress memory =>
      cases progress with
      | ended result =>
          exact ⟨rfl, rfl, .busy rfl (.ended own) activeFor items, falls (Nat.lt_succ_self 2)⟩
      | panicked crash =>
          exact ⟨rfl, rfl, .busy rfl (.ended own) activeFor items, falls (Nat.lt_succ_self 2)⟩
      | sleeping span rest =>
          refine ⟨rfl, rfl, .busy rfl (.sleeping own) activeFor items, ?_⟩
          rw [Nears, here.1, here.2]
          exact .right 3 ⟨_, _, _, _, ran⟩
      | hanging =>
          exact ⟨rfl, rfl, .busy rfl (.hanging own) activeFor items, falls (Nat.succ_pos 2)⟩

theorem handlingStep_took {since : Instant} {command : Command}
    (stage : w.stage = .waiting since) (items : w.inbound.items = [.command command])
    (live : w.session.Live) (own : w.session.identity = some id)
    (addressed : command.entityId = id) (linked : w.Linked []) :
    HandlingStep id (some command) w
      (absorb now { w with inbound := { w.inbound with items := [] } }
        (w.session.begin shared (.command command))).worker := by
  have step : Strides now w shared _ := .took stage items
  obtain ⟨same, absorbed⟩ := absorbed now
    (w := { w with inbound := { w.inbound with items := [] } })
    (Session.commandStep_begin live own shared addressed) rfl
  have unread := same.trans linked.unread
  refine absorbed.handlingStep (fun going => (step.linked linked going).congr unread)
    (fun ended => (step.disconnected ended).congr unread) fun near => ?_
  have before : w.distance = 4 := by simp only [distance, stage, items, List.length_singleton]
  rcases near with near | ⟨near, -⟩ <;> omega

theorem handlingStep_concluded {ticket : Ticket}
    {ending : Except CommandError (Effect E.State E.Event)} {command : Command}
    (stage : w.stage = .ended ticket ending) (own : ticket.commandId = command.commandId)
    (activeFor : w.session.ActiveFor id) (items : w.inbound.items = []) (linked : w.Linked []) :
    HandlingStep id (some command) w
      (w.absorb now (w.session.conclude shared ticket ending)).worker := by
  have step : Strides now w shared _ := .concluded stage
  obtain ⟨same, absorbed⟩ := absorbed now (w := w)
    (own ▸ activeFor.conclude shared ticket ending) items
  have unread := same.trans linked.unread
  refine absorbed.handlingStep (fun going => (step.linked linked going).congr unread)
    (fun ended => (step.disconnected ended).congr unread) fun near => ?_
  have settles := Session.settles_conclude w.session shared ticket ending
  have last := near.resolve_right fun ⟨_, call, calling⟩ => settles.idle call calling
  have before : w.distance = 2 := by simp only [distance, stage]
  omega

theorem handlingStep_runHandler {command : Command} {call : Call E}
    (stage : w.stage = .running call ∨ ∃ wake, w.stage = .sleeping wake call)
    (own : call.ticket.commandId = command.commandId) (activeFor : w.session.ActiveFor id)
    (items : w.inbound.items = []) (linked : w.Linked [])
    (step : Strides now w shared (w.runHandler now shared call)) :
    HandlingStep id (some command) w (w.runHandler now shared call).worker := by
  obtain ⟨going, same, handles, nears⟩ :=
    handlesCommands_runHandler now shared stage own activeFor items
  exact .handling ((step.linked linked going).congr (same ▸ linked.unread)) handles nears

theorem handlingStep_delivered {message : Outbound} {command : Command}
    (answers : message.Answers command.commandId) (activeFor : w.session.ActiveFor id)
    (items : w.inbound.items = []) (linked : w.Linked [])
    (step : Strides now w shared ⟨afterMessage now { w with
      outbound := { w.outbound with items := w.outbound.items ++ [message] } }, shared, [], []⟩) :
    HandlingStep id (some command) w (afterMessage now { w with
      outbound := { w.outbound with items := w.outbound.items ++ [message] } }) := by
  have link := step.linked linked
  have unread : w.outbound.items ++ [message] = [message] := by
    rw [linked.unread, List.nil_append]
  have waits := afterMessage_of_live now (w := { w with
    outbound := { w.outbound with items := w.outbound.items ++ [message] } })
    (.inr activeFor.active)
  rw [waits] at link ⊢
  exact .answered rfl answers ((link rfl).congr unread)
    (.idle rfl (.inr activeFor.active) activeFor.own items)

theorem HandlesCommands.strides (handles : w.HandlesCommands id asked)
    (addressed : ∀ command, asked = some command → command.entityId = id)
    (linked : w.Linked []) (h : Strides now w shared stride) :
    HandlingStep id asked w stride.worker := by
  cases handles with
  | idle waits live own items =>
      cases h with
      | took stage found =>
          cases asked with
          | none => cases items.symm.trans found
          | some command =>
              have items : w.inbound.items = [.command command] := items
              obtain ⟨rfl, rfl⟩ := List.cons.inj (found.symm.trans items)
              exact handlingStep_took stage found live own (addressed command rfl) linked
      | emptied stage none closed =>
          have step : Strides now w shared _ := .emptied stage none closed
          exact .disconnected ((step.disconnected rfl).congr linked.unread)
      | idled stage none idle =>
          have step : Strides now w shared _ := .idled stage none idle
          exact .disconnected ((step.disconnected rfl).congr linked.unread)
      | started stage | ran stage | woke stage | concluded stage | delivered stage
      | undelivered stage => cases stage.symm.trans waits
  | @busy command asks busy activeFor items =>
      subst asks
      cases h with
      | ran stage =>
          rw [stage] at busy
          cases busy with
          | running own =>
              exact handlingStep_runHandler (.inl stage) own activeFor items linked (.ran stage)
      | woke stage due =>
          rw [stage] at busy
          cases busy with
          | sleeping own =>
              exact handlingStep_runHandler (.inr ⟨_, stage⟩) own activeFor items linked
                (.woke stage due)
      | concluded stage =>
          rw [stage] at busy
          cases busy with
          | ended own => exact handlingStep_concluded stage own activeFor items linked
      | delivered stage receiving =>
          rw [stage] at busy
          cases busy with
          | delivering answers =>
              have step : Strides now w shared _ := .delivered stage receiving
              exact handlingStep_delivered answers activeFor items linked step
      | undelivered stage deaf => cases deaf.symm.trans linked.heard
      | started stage | took stage | emptied stage | idled stage =>
          rw [stage] at busy
          cases busy

theorem HandlesCommands.stops (handles : w.HandlesCommands id none) (linked : w.Linked unread)
    (h : Strides now w shared stride) : stride.worker.Disconnected unread := by
  have hang := h.disconnected
  cases handles with
  | busy asks => cases asks
  | idle waits live own items =>
      cases h with
      | took stage found => cases items.symm.trans found
      | emptied stage none => exact (hang rfl).congr linked.unread
      | idled stage none => exact (hang rfl).congr linked.unread
      | started stage | ran stage | woke stage | concluded stage | delivered stage
      | undelivered stage => cases stage.symm.trans waits

end Worker

end EntityEngine
