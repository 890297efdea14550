import EntityEngine.Proofs.Calling

/-!
# Calls and their answers

A host and the worker of its channel, with all else that happens only seen in the handles that
others have. Before each call there is no answer in the queue, and the worker that is still
there has no command. So the first answer after a command is that to the command; while the host
waits for it, at most the answer itself can be there. A worker that is gone leaves that answer
at most, and the failure of the channel if it never began.
-/

namespace EntityEngine

inductive Called where
  | answered (message : Outbound)
  | workerGone
deriving DecidableEq

structure Finished where
  commandId : UInt64
  result : Called
deriving DecidableEq

namespace Finished

/-- The call got the answer to its own command. -/
def Answered (f : Finished) : Prop := ∃ out, f.result = .answered out ∧ out.Answers f.commandId

def Gone (f : Finished) : Prop := f.result = .workerGone

/-- The call got the failure of its channel. -/
def ChannelFailed (f : Finished) : Prop :=
  ∃ failure, f.result = .answered (.failure failure) ∧ failure.commandId = none

theorem Answered.not_channelFailed {f : Finished} (answered : f.Answered) : ¬ f.ChannelFailed := by
  rintro ⟨failure, failed, uncommanded⟩
  obtain ⟨out, result, answers⟩ := answered
  obtain rfl := Called.answered.inj (result.symm.trans failed)
  cases answers with
  | failure own => cases own.symm.trans uncommanded

theorem Answered.not_gone {f : Finished} (answered : f.Answered) : ¬ f.Gone := by
  obtain ⟨out, result, -⟩ := answered
  intro gone
  cases result.symm.trans gone

end Finished

/-- What a host gets that only calls: each call its own answer, until the worker is gone. Only
the first call can get the failure of the channel, and only if the `Init` ends it. -/
structure Pairs (endsOnInit : Prop) (finished : List Finished) : Prop where
  own : ∀ i (f : Finished), finished[i]? = some f →
    f.Answered ∨ f.Gone ∨ i = 0 ∧ endsOnInit ∧ f.ChannelFailed
  final : finished.Pairwise fun f g => f.Gone ∨ f.ChannelFailed → g.Gone

theorem pairs_of_answered {endsOnInit : Prop} {finished : List Finished}
    (answered : ∀ f ∈ finished, f.Answered) : Pairs endsOnInit finished where
  own _ f found := .inl (answered f (List.mem_of_getElem? found))
  final := by
    refine (List.pairwise_of_forall_mem_list fun f member g _ ended => ?_)
    exact (ended.elim (answered f member).not_gone (answered f member).not_channelFailed).elim

theorem pairs_channelFailed {endsOnInit : Prop} {f : Finished} (ends : endsOnInit)
    (channelFailed : f.ChannelFailed) :
    Pairs endsOnInit [f] where
  own i g found := by
    cases i with
    | zero => exact .inr (.inr ⟨rfl, ends, Option.some.inj found ▸ channelFailed⟩)
    | succ i => cases found
  final := List.pairwise_singleton _ f

/-- A call that finds its worker gone may come after any others. -/
theorem Pairs.concat {endsOnInit : Prop} {finished : List Finished}
    (pairs : Pairs endsOnInit finished)
    {f : Finished} (gone : f.Gone) : Pairs endsOnInit (finished ++ [f]) where
  own i g found := by
    by_cases within : i < finished.length
    · rw [List.getElem?_append_left within] at found
      exact pairs.own i g found
    · rw [List.getElem?_append_right (Nat.le_of_not_lt within)] at found
      obtain rfl := List.mem_singleton.mp (List.mem_of_getElem? found)
      exact .inr (.inl gone)
  final := by
    refine List.pairwise_append.mpr ⟨pairs.final, List.pairwise_singleton _ f, ?_⟩
    intro g _ last member _
    obtain rfl := List.mem_singleton.mp member
    exact gone

inductive Stance where
  | opening
  | ready
  /-- The command is still to be queued. -/
  | sending (command : Command)
  /-- The command is queued, and the next answer will be taken for its own. -/
  | awaiting (command : Command)
deriving DecidableEq

namespace Stance

def command? : Stance → Option Command
  | sending command | awaiting command => some command
  | _ => none

/-- The command that the worker was asked. -/
def asked : Stance → Option Command
  | awaiting command => some command
  | _ => none

end Stance

/-- A host that opens its channel and then only calls, with what it calls over. -/
structure Caller (σ : Type) where
  stance : Stance
  /-- The calls that have returned, in their order. -/
  finished : List Finished
  holds : σ

namespace Caller

variable {σ : Type}

def call (c : Caller σ) (command : Command) : Caller σ :=
  match c.stance with
  | .ready => { c with stance := .sending command }
  | _ => c

def finish (c : Caller σ) (command : Command) (result : Called) : Caller σ :=
  { c with stance := .ready, finished := c.finished ++ [⟨command.commandId, result⟩] }

/-- Go on with what was begun, as far as that is possible at once. -/
def goOn (init : Init) (send : σ → Inbound → Except Refusal σ) (receive : σ → Received σ)
    (c : Caller σ) : Caller σ :=
  match c.stance with
  | .opening =>
    match send c.holds (.init init) with
    | .ok holds => { c with stance := .ready, holds }
    | .error .closed => { c with stance := .ready }
    | .error .full => c
  | .ready => c
  | .sending command =>
    match send c.holds (.command command) with
    | .ok holds => { c with stance := .awaiting command, holds }
    | .error .closed => c.finish command .workerGone
    | .error .full => c
  | .awaiting command =>
    match receive c.holds with
    | .message out rest => { c with holds := rest }.finish command (.answered out)
    | .pending => c
    | .closed => c.finish command .workerGone

end Caller

namespace Worker

variable {E : Entity} {w : Worker E} {id : EntityId} {o : Options} {init : Init}
  {asked : Option Command} {unread : List Outbound}

def handled (w : Worker E) (senders : Nat) : Worker E :=
  { w with inbound := { w.inbound with senders } }

def queueing (w : Worker E) (message : Inbound) : Worker E :=
  { w with inbound := { w.inbound with items := w.inbound.items ++ [message] } }

def leaving (w : Worker E) (unread : List Outbound) : Worker E :=
  { w with outbound := { w.outbound with items := unread } }

theorem Linked.send (linked : w.Linked unread) (message : Inbound) :
    (w.inbound.items.length < w.inbound.capacity ∧ w.send message = .ok (w.queueing message)) ∨
      (w.inbound.capacity ≤ w.inbound.items.length ∧ w.send message = .error .full) := by
  unfold Worker.send
  by_cases room : w.inbound.items.length < w.inbound.capacity
  · have pushed : w.inbound.push message =
        .ok { w.inbound with items := w.inbound.items ++ [message] } :=
      Queue.push_eq_ok_iff.mpr ⟨linked.listening, decide_eq_true room, rfl⟩
    exact .inl ⟨room, by rw [pushed]; rfl⟩
  · have pushed : w.inbound.push message = .error .full := by
      simp only [Queue.push, Queue.hasRoom, linked.listening, room, Bool.not_true, decide_false,
        Bool.false_eq_true, if_false]
    exact .inr ⟨Nat.le_of_not_lt room, by rw [pushed]; rfl⟩

theorem Disconnected.send (disconnected : w.Disconnected unread) (message : Inbound) :
    w.send message = .error .closed := by
  unfold Worker.send Queue.push
  simp only [disconnected.deaf, Bool.not_false, if_true]
  rfl

theorem receive_of_unread {out : Outbound} {rest : List Outbound}
    (items : w.outbound.items = out :: rest) : w.receive = .message out (w.leaving rest) := by
  unfold Worker.receive Queue.pop
  simp only [items]
  rfl

theorem Linked.receive (linked : w.Linked []) : w.receive = .pending := by
  unfold Worker.receive Queue.pop
  simp only [linked.unread, linked.answering, if_false]

theorem Disconnected.receive (disconnected : w.Disconnected []) : w.receive = .closed := by
  unfold Worker.receive Queue.pop
  simp only [disconnected.unread, disconnected.silent, if_true]

theorem Linked.handled (linked : w.Linked unread) (senders : Nat) :
    (w.handled senders).Linked unread :=
  ⟨linked.listening, linked.heard, linked.answering, linked.unread, linked.roomIn, linked.roomOut⟩

theorem Disconnected.handled (disconnected : w.Disconnected unread) (senders : Nat) :
    (w.handled senders).Disconnected unread :=
  ⟨disconnected.ended, disconnected.deaf, disconnected.silent, disconnected.unread⟩

theorem New.handled {messages : List Inbound} (new : w.New o messages) (senders : Nat) :
    (w.handled senders).New o messages :=
  ⟨new.session, new.still, new.items⟩

theorem Opens.handled (opens : w.Opens o init asked) (senders : Nat) :
    (w.handled senders).Opens o init asked := by
  cases opens with
  | unread new => exact .unread (new.handled senders)
  | channelFailed stage uncommanded closed endsOnInit =>
      exact .channelFailed stage uncommanded closed endsOnInit

theorem HandlesCommands.handled (handles : w.HandlesCommands id asked) (senders : Nat) :
    (w.handled senders).HandlesCommands id asked := by
  cases handles with
  | idle stage live own items => exact .idle stage live own items
  | busy asks stage activeFor items => exact .busy asks stage activeFor items

theorem Linked.queueing (linked : w.Linked unread) (message : Inbound) :
    (w.queueing message).Linked unread :=
  ⟨linked.listening, linked.heard, linked.answering, linked.unread, linked.roomIn, linked.roomOut⟩

theorem New.queueing {messages : List Inbound} (new : w.New o messages) (message : Inbound) :
    (w.queueing message).New o (messages ++ [message]) :=
  ⟨new.session, new.still, congrArg (· ++ [message]) new.items⟩

theorem Opens.queueing (opens : w.Opens o init none) (command : Command) :
    (w.queueing (.command command)).Opens o init (some command) := by
  cases opens with
  | unread new => exact .unread (new.queueing (.command command))
  | channelFailed stage uncommanded closed endsOnInit =>
      exact .channelFailed stage uncommanded closed endsOnInit

theorem HandlesCommands.queueing (handles : w.HandlesCommands id none) (command : Command) :
    (w.queueing (.command command)).HandlesCommands id (some command) := by
  cases handles with
  | idle stage live own items =>
      exact .idle stage live own (congrArg (· ++ [Inbound.command command]) items)
  | busy asks => cases asks

theorem Linked.leaving (linked : w.Linked unread) (rest : List Outbound) :
    (w.leaving rest).Linked rest :=
  ⟨linked.listening, linked.heard, linked.answering, rfl, linked.roomIn, linked.roomOut⟩

theorem Disconnected.leaving (disconnected : w.Disconnected unread) (rest : List Outbound) :
    (w.leaving rest).Disconnected rest :=
  ⟨disconnected.ended, disconnected.deaf, disconnected.silent, rfl⟩

theorem HandlesCommands.leaving (handles : w.HandlesCommands id asked) (rest : List Outbound) :
    (w.leaving rest).HandlesCommands id asked := by
  cases handles with
  | idle stage live own items => exact .idle stage live own items
  | busy asks stage activeFor items => exact .busy asks stage activeFor items

end Worker

namespace Caller

variable {E : Entity} {line : Caller (Worker E)} {id : EntityId} {o : Options} {init : Init}

def work (line : Caller (Worker E)) (now : Instant) (shared : Shared E.Memory) :
    Caller (Worker E) :=
  match line.holds.step? now shared with
  | some stride => { line with holds := stride.worker }
  | none => line

def handled (line : Caller (Worker E)) (senders : Nat) : Caller (Worker E) :=
  { line with holds := line.holds.handled senders }

inductive LineStep (id : EntityId) (init : Init) (line : Caller (Worker E)) :
    Caller (Worker E) → Prop
  | handled (senders : Nat) : LineStep id init line (line.handled senders)
  | worked (now : Instant) (shared : Shared E.Memory) : LineStep id init line (line.work now shared)
  | called {command : Command} (addressed : command.entityId = id) :
      LineStep id init line (line.call command)
  | wentOn : LineStep id init line (line.goOn init Worker.send Worker.receive)

/-- The host and its worker between the opening of the channel and the end of the worker. There
is no answer to be taken but the one that the host is waiting for. -/
inductive Paired (id : EntityId) (o : Options) (init : Init) (line : Caller (Worker E)) : Prop
  | opening (stance : line.stance = .opening) (first : line.finished = [])
      (linked : line.holds.Linked []) (new : line.holds.New o [])
  | greeting (opened : line.stance ≠ .opening) (first : line.finished = [])
      (linked : line.holds.Linked []) (opens : line.holds.Opens o init line.stance.asked)
  | handling (opened : line.stance ≠ .opening) (answered : ∀ f ∈ line.finished, f.Answered)
      (linked : line.holds.Linked []) (handles : line.holds.HandlesCommands id line.stance.asked)
  | served {command : Command} {out : Outbound} (stance : line.stance = .awaiting command)
      (answered : ∀ f ∈ line.finished, f.Answered) (answers : out.Answers command.commandId)
      (served : line.holds.Linked [out] ∧ line.holds.HandlesCommands id none ∨
        line.holds.Disconnected [out])
  | channelFailed {command : Command} {failure : Failure} (stance : line.stance = .awaiting command)
      (first : line.finished = []) (uncommanded : failure.commandId = none)
      (endsOnInit : (Session.fresh o : Session E).EndsOnInit init)
      (disconnected : line.holds.Disconnected [.failure failure])
  | gone {unread : List Outbound}
      (pairs : Pairs ((Session.fresh o : Session E).EndsOnInit init) line.finished)
      (disconnected : line.holds.Disconnected unread)
      (silent : line.stance.asked ≠ none → unread = [])

def Addressed (id : EntityId) (line : Caller (Worker E)) : Prop :=
  ∀ command, line.stance.command? = some command → command.entityId = id

theorem Paired.handled (paired : Paired id o init line) (senders : Nat) :
    Paired id o init (line.handled senders) := by
  cases paired with
  | opening stance first linked new =>
      exact .opening stance first (linked.handled senders) (new.handled senders)
  | greeting opened first linked opens =>
      exact .greeting opened first (linked.handled senders) (opens.handled senders)
  | handling opened answered linked handles =>
      exact .handling opened answered (linked.handled senders) (handles.handled senders)
  | served stance answered answers served =>
      exact .served stance answered answers (served.imp
        (And.imp (·.handled senders) (·.handled senders)) (·.handled senders))
  | channelFailed stance first uncommanded endsOnInit disconnected =>
      exact .channelFailed stance first uncommanded endsOnInit (disconnected.handled senders)
  | gone pairs disconnected silent => exact .gone pairs (disconnected.handled senders) silent

theorem Paired.call (paired : Paired id o init line) (command : Command) :
    Paired id o init (line.call command) := by
  obtain ⟨stance, finished, w⟩ := line
  cases stance with
  | ready =>
      cases paired with
      | greeting opened first linked opens => exact .greeting nofun first linked opens
      | handling opened answered linked handles => exact .handling nofun answered linked handles
      | gone pairs disconnected silent => exact .gone pairs disconnected silent
      | opening stance | served stance | channelFailed stance => cases stance
  | _ => exact paired

theorem asked_eq_some {stance : Stance} {command : Command} (asks : stance.asked = some command) :
    stance = .awaiting command := by
  cases stance with
  | awaiting other => exact congrArg Stance.awaiting (Option.some.inj asks)
  | _ => cases asks

theorem paired_of_handlingStep {w : Worker E} (opened : line.stance ≠ .opening)
    (answered : ∀ f ∈ line.finished, f.Answered)
    (handlingStep : Worker.HandlingStep id line.stance.asked line.holds w) :
    Paired id o init { line with holds := w } := by
  cases handlingStep with
  | handling linked handles => exact .handling opened answered linked handles
  | answered asks answers linked rests =>
      exact .served (asked_eq_some asks) answered answers (.inl ⟨linked, rests⟩)
  | disconnected disconnected => exact .gone (pairs_of_answered answered) disconnected fun _ => rfl

theorem Paired.work (paired : Paired id o init line) (expected : o.expectedEntity = some id)
    (addressed : line.Addressed id) (now : Instant) (shared : Shared E.Memory) :
    Paired id o init (line.work now shared) := by
  unfold Caller.work
  cases step : line.holds.step? now shared with
  | none => exact paired
  | some stride =>
      have strides := Worker.strides_of_step? step
      cases paired with
      | opening stance first linked new =>
          obtain ⟨linked, new⟩ | disconnected := new.rests linked strides
          · exact .opening stance first linked new
          · exact .gone (first ▸ pairs_of_answered (List.forall_mem_nil _)) disconnected
              fun _ => rfl
      | greeting opened first linked opens =>
          have answered : ∀ f ∈ line.finished, f.Answered := first ▸ List.forall_mem_nil _
          cases opens.strides expected linked strides with
          | opening linked opens => exact .greeting opened first linked opens
          | channelFailed uncommanded endsOnInit disconnected =>
              cases asks : line.stance.asked with
              | none =>
                  exact .gone (pairs_of_answered answered) disconnected fun some => (some asks).elim
              | some command =>
                  exact .channelFailed (asked_eq_some asks) first uncommanded endsOnInit
                    disconnected
          | dealt handlingStep => exact paired_of_handlingStep opened answered handlingStep
      | handling opened answered linked handles =>
          refine paired_of_handlingStep opened answered
            (handles.strides (fun command asks => ?_) linked strides)
          exact addressed command (by rw [asked_eq_some asks]; rfl)
      | served stance answered answers served =>
          obtain ⟨linked, rests⟩ | disconnected := served
          · exact .served stance answered answers (.inr (rests.stops linked strides))
          · exact (disconnected.not_step step).elim
      | channelFailed stance first uncommanded endsOnInit disconnected =>
          exact (disconnected.not_step step).elim
      | gone pairs disconnected => exact (disconnected.not_step step).elim

theorem Paired.goOn_opening {finished : List Finished} {w : Worker E}
    (paired : Paired id o init ⟨.opening, finished, w⟩) :
    Paired id o init (Caller.goOn init Worker.send Worker.receive ⟨.opening, finished, w⟩) := by
  unfold Caller.goOn
  cases paired with
  | opening _ first linked new =>
      obtain ⟨-, sent⟩ | ⟨full, -⟩ := linked.send (.init init)
      · simp only [sent]
        exact .greeting nofun first (linked.queueing _) (.unread (new.queueing _))
      · exact (Nat.not_lt_of_le full (new.items ▸ linked.roomIn)).elim
  | gone pairs disconnected silent =>
      simp only [disconnected.send]
      exact .gone pairs disconnected nofun
  | greeting opened | handling opened => exact (opened rfl).elim
  | served stance | channelFailed stance => cases stance

theorem Paired.goOn_sending {command : Command} {finished : List Finished} {w : Worker E}
    (paired : Paired id o init ⟨.sending command, finished, w⟩) :
    Paired id o init
      (Caller.goOn init Worker.send Worker.receive ⟨.sending command, finished, w⟩) := by
  unfold Caller.goOn
  cases paired with
  | greeting opened first linked opens =>
      obtain ⟨-, sent⟩ | ⟨-, full⟩ := linked.send (.command command)
      · simp only [sent]
        exact .greeting nofun first (linked.queueing _) (opens.queueing command)
      · simp only [full]
        exact .greeting opened first linked opens
  | handling opened answered linked handles =>
      obtain ⟨-, sent⟩ | ⟨-, full⟩ := linked.send (.command command)
      · simp only [sent]
        exact .handling nofun answered (linked.queueing _) (handles.queueing command)
      · simp only [full]
        exact .handling opened answered linked handles
  | gone pairs disconnected silent =>
      simp only [disconnected.send]
      exact .gone (pairs.concat rfl) disconnected nofun
  | opening stance | served stance | channelFailed stance => cases stance

theorem Paired.goOn_awaiting {command : Command} {finished : List Finished} {w : Worker E}
    (paired : Paired id o init ⟨.awaiting command, finished, w⟩) :
    Paired id o init
      (Caller.goOn init Worker.send Worker.receive ⟨.awaiting command, finished, w⟩) := by
  unfold Caller.goOn
  cases paired with
  | greeting opened first linked opens =>
      simp only [linked.receive]
      exact .greeting opened first linked opens
  | handling opened answered linked handles =>
      simp only [linked.receive]
      exact .handling opened answered linked handles
  | @served _ out stance answered answers served =>
      cases stance
      have taken (f : Finished)
          (member : f ∈ finished ++ [⟨command.commandId, .answered out⟩]) : f.Answered := by
        rcases List.mem_append.mp member with earlier | last
        · exact answered f earlier
        · rw [List.mem_singleton.mp last]
          exact ⟨out, rfl, answers⟩
      obtain ⟨linked, rests⟩ | disconnected := served
      · simp only [Worker.receive_of_unread linked.unread]
        exact .handling nofun taken (linked.leaving []) (rests.leaving [])
      · simp only [Worker.receive_of_unread disconnected.unread]
        exact .gone (pairs_of_answered taken) (disconnected.leaving []) nofun
  | @channelFailed _ failure stance first uncommanded endsOnInit disconnected =>
      cases stance
      obtain rfl : finished = [] := first
      simp only [Worker.receive_of_unread disconnected.unread]
      exact .gone (pairs_channelFailed endsOnInit ⟨failure, rfl, uncommanded⟩)
        (disconnected.leaving []) nofun
  | gone pairs disconnected silent =>
      have disconnected := disconnected.congr (silent nofun)
      simp only [disconnected.receive]
      exact .gone (pairs.concat rfl) disconnected nofun
  | opening stance => cases stance

theorem Paired.goOn (paired : Paired id o init line) :
    Paired id o init (line.goOn init Worker.send Worker.receive) := by
  obtain ⟨_ | _ | command | command, finished, w⟩ := line
  · exact paired.goOn_opening
  · exact paired
  · exact paired.goOn_sending
  · exact paired.goOn_awaiting

theorem Addressed.lineStep {line' : Caller (Worker E)} (addressed : line.Addressed id)
    (lineStep : LineStep id init line line') : line'.Addressed id := by
  obtain ⟨stance, finished, w⟩ := line
  cases lineStep with
  | handled senders => exact addressed
  | worked now shared =>
      unfold Caller.work
      split <;> exact addressed
  | @called command own =>
      cases stance with
      | ready =>
          rintro _ ⟨⟩
          exact own
      | _ => exact addressed
  | wentOn =>
      unfold Caller.goOn
      cases stance with
      | ready => exact addressed
      | opening =>
          simp only
          split
          · exact nofun
          · exact nofun
          · exact addressed
      | sending command =>
          simp only
          split
          · exact addressed
          · exact nofun
          · exact addressed
      | awaiting command =>
          simp only
          split
          · exact nofun
          · exact addressed
          · exact nofun

theorem Paired.lineStep {line' : Caller (Worker E)} (paired : Paired id o init line)
    (expected : o.expectedEntity = some id) (addressed : line.Addressed id)
    (lineStep : LineStep id init line line') : Paired id o init line' := by
  cases lineStep with
  | handled senders => exact paired.handled senders
  | worked now shared => exact paired.work expected addressed now shared
  | called => exact paired.call _
  | wentOn => exact paired.goOn

theorem Paired.pairs (paired : Paired id o init line) :
    Pairs ((Session.fresh o : Session E).EndsOnInit init) line.finished := by
  cases paired with
  | opening _ first => exact first ▸ pairs_of_answered (List.forall_mem_nil _)
  | greeting _ first => exact first ▸ pairs_of_answered (List.forall_mem_nil _)
  | handling _ answered => exact pairs_of_answered answered
  | served _ answered => exact pairs_of_answered answered
  | channelFailed _ first => exact first ▸ pairs_of_answered (List.forall_mem_nil _)
  | gone pairs => exact pairs

end Caller

end EntityEngine
