import EntityEngine.Proofs.Pairing

/-!
# Calls return

The host goes on again and again, and its worker is let on at ever later times. Then a call
returns, unless its handler hangs: until then everything that happens to the host and its worker
either leaves them as they were or brings the call forward. That can go on only so often, since
every handler sleeps for a bounded number of times.
-/

namespace EntityEngine

namespace Worker

variable {E : Entity} {w : Worker E} {now since : Instant} {shared : Shared E.Memory}

def Hangs (commandId : UInt64) (w : Worker E) : Prop :=
  ∃ ticket, w.stage = .hanging ticket ∧ ticket.commandId = commandId

theorem exists_step_of_items (stage : w.stage = .waiting since) (items : w.inbound.items ≠ []) :
    ∃ stride, w.step? now shared = some stride := by
  simp only [step?, stage, take?, Queue.pop]
  cases found : w.inbound.items with
  | nil => exact (items found).elim
  | cons message rest => exact ⟨_, rfl⟩

theorem exists_step_of_delivering (linked : w.Linked []) {out : Outbound}
    (stage : w.stage = .delivering out) : ∃ stride, w.step? now shared = some stride := by
  have room : w.outbound.hasRoom = true := by
    simp [Queue.hasRoom, linked.unread, linked.roomOut]
  simp only [step?, stage, deliver?, Queue.push, room, linked.heard]
  exact ⟨_, rfl⟩

theorem distance_queueing (w : Worker E) (message : Inbound) :
    (w.queueing message).distance ≤ w.distance + 1 := by
  obtain ⟨session, inbound, outbound, passivation, stage⟩ := w
  cases stage <;> simp [distance, queueing]

end Worker

namespace Caller

variable {E : Entity} {line line' : Caller (Worker E)} {id : EntityId} {o : Options}
  {init : Init} {command : Command}

/-- The call can return at once. -/
def CanReturn (line : Caller (Worker E)) : Prop :=
  line.holds.inbound.receiving = false ∨ line.holds.outbound.items ≠ []

/-- How many steps the call may still take, but for the naps of its handler. -/
def distance (line : Caller (Worker E)) : Nat :=
  line.holds.distance + match line.stance with
    | .sending _ => 2
    | _ => 0

def Nears (line' line : Caller (Worker E)) : Prop :=
  Prod.Lex (· < ·) (fun rest activity => activity.Leaves rest)
    (line'.distance, line'.holds.activity) (line.distance, line.holds.activity)

theorem wellFounded_nears :
    WellFounded (Nears : Caller (Worker E) → Caller (Worker E) → Prop) :=
  InvImage.wf (fun line : Caller (Worker E) => (line.distance, line.holds.activity))
    (Prod.lex ⟨_, Nat.lt_wfRel.wf⟩ ⟨_, Activity.wellFounded_leaves⟩).wf

def Returns (command : Command) (line line' : Caller (Worker E)) : Prop :=
  ∃ result, line'.finished = line.finished ++ [⟨command.commandId, result⟩]

structure Continues (command : Command) (line line' : Caller (Worker E)) : Prop where
  calls : line'.stance.command? = some command
  finished : line'.finished = line.finished

theorem Continues.returns {last : Caller (Worker E)} (continues : Continues command line line')
    (returns : Returns command line' last) : Returns command line last := by
  obtain ⟨result, returned⟩ := returns
  exact ⟨result, returned.trans (by rw [continues.finished])⟩

/-- Something has happened that brings the call forward. -/
inductive Advances (command : Command) (line line' : Caller (Worker E)) : Prop
  | returned (returns : Returns command line line')
  | returnable (continues : Continues command line line') (canReturn : line'.CanReturn)
  | neared (continues : Continues command line line') (nears : line'.Nears line)

/-- The worker is there, without an answer, and has the command or will get it. -/
structure Waits (id : EntityId) (o : Options) (init : Init) (line : Caller (Worker E)) : Prop where
  linked : line.holds.Linked []
  pending : line.holds.Opens o init line.stance.asked ∨
    line.holds.HandlesCommands id line.stance.asked

theorem Paired.canReturn_or_waits (paired : line.Paired id o init)
    (calls : line.stance.command? = some command) : line.CanReturn ∨ line.Waits id o init := by
  cases paired with
  | opening stance =>
      rw [stance] at calls
      cases calls
  | greeting opened first linked opens => exact .inr ⟨linked, .inl opens⟩
  | handling opened answered linked handles => exact .inr ⟨linked, .inr handles⟩
  | served stance answered answers served =>
      obtain ⟨linked, -⟩ | disconnected := served
      · exact .inl (.inr (by rw [linked.unread]; exact List.cons_ne_nil _ _))
      · exact .inl (.inl disconnected.deaf)
  | channelFailed stance first uncommanded endsOnInit disconnected =>
      exact .inl (.inl disconnected.deaf)
  | gone pairs disconnected => exact .inl (.inl disconnected.deaf)

theorem Waits.not_canReturn (waits : line.Waits id o init) : ¬ line.CanReturn := by
  rintro (deaf | unread)
  · cases waits.linked.listening.symm.trans deaf
  · exact unread waits.linked.unread

theorem command?_eq_some {stance : Stance} (calls : stance.command? = some command) :
    stance = .sending command ∨ stance = .awaiting command := by
  cases stance with
  | sending other => exact .inl (congrArg _ (Option.some.inj calls))
  | awaiting other => exact .inr (congrArg _ (Option.some.inj calls))
  | _ => cases calls

theorem Paired.returns (paired : line.Paired id o init)
    (calls : line.stance.command? = some command) (canReturn : line.CanReturn) :
    Returns command line (line.goOn init Worker.send Worker.receive) := by
  obtain ⟨stance, finished, w⟩ := line
  have waits := fun waits : Waits id o init ⟨stance, finished, w⟩ => waits.not_canReturn canReturn
  unfold Caller.goOn
  obtain rfl | rfl := command?_eq_some calls
  · cases paired with
    | gone pairs disconnected silent =>
        simp only [disconnected.send]
        exact ⟨_, rfl⟩
    | greeting opened first linked opens => exact (waits ⟨linked, .inl opens⟩).elim
    | handling opened answered linked handles => exact (waits ⟨linked, .inr handles⟩).elim
    | opening stance | served stance | channelFailed stance => cases stance
  · cases paired with
    | @served _ out stance answered answers served =>
        have unread : w.outbound.items = [out] := by
          obtain ⟨linked, -⟩ | disconnected := served
          · exact linked.unread
          · exact disconnected.unread
        simp only [Worker.receive_of_unread unread]
        exact ⟨_, rfl⟩
    | channelFailed stance first uncommanded endsOnInit disconnected =>
        simp only [Worker.receive_of_unread disconnected.unread]
        exact ⟨_, rfl⟩
    | gone pairs disconnected silent =>
        simp only [(disconnected.congr (silent nofun)).receive]
        exact ⟨_, rfl⟩
    | greeting opened first linked opens => exact (waits ⟨linked, .inl opens⟩).elim
    | handling opened answered linked handles => exact (waits ⟨linked, .inr handles⟩).elim
    | opening stance => cases stance

theorem call_of_calls (calls : line.stance.command? = some command) (other : Command) :
    line.call other = line := by
  obtain ⟨stance, finished, w⟩ := line
  obtain rfl | rfl := command?_eq_some calls <;> rfl

theorem continues_work (calls : line.stance.command? = some command) (now : Instant)
    (shared : Shared E.Memory) : Continues command line (line.work now shared) := by
  unfold Caller.work
  split <;> exact ⟨calls, rfl⟩

/-- A call that can return still can until it does. -/
theorem Paired.canReturn_lineStep (paired : line.Paired id o init)
    (calls : line.stance.command? = some command) (canReturn : line.CanReturn)
    (lineStep : LineStep id init line line') :
    Returns command line line' ∨ Continues command line line' ∧ line'.CanReturn := by
  cases lineStep with
  | handled senders => exact .inr ⟨⟨calls, rfl⟩, canReturn⟩
  | called => exact .inr (by rw [call_of_calls calls]; exact ⟨⟨calls, rfl⟩, canReturn⟩)
  | wentOn => exact .inl (paired.returns calls canReturn)
  | worked now shared =>
      refine .inr ⟨continues_work calls now shared, ?_⟩
      unfold Caller.work
      cases step : line.holds.step? now shared with
      | none => exact canReturn
      | some stride =>
          have strides := Worker.strides_of_step? step
          obtain deaf | unread := canReturn
          · left
            have receiving := strides.listens.receiving
            rw [deaf, Bool.and_false] at receiving
            exact receiving
          · cases paired with
            | served stance answered answers served =>
                obtain ⟨linked, rests⟩ | disconnected := served
                · exact .inl (rests.stops linked strides).deaf
                · exact (disconnected.not_step step).elim
            | channelFailed stance first uncommanded endsOnInit disconnected =>
                exact (disconnected.not_step step).elim
            | gone pairs disconnected =>
                exact (disconnected.not_step step).elim
            | opening stance first linked | greeting opened first linked
            | handling opened answered linked => exact (unread linked.unread).elim

theorem nears_of_worker (finished : List Finished) {stance : Stance} {w w' : Worker E}
    (nears : w'.Nears w) :
    (⟨stance, finished, w'⟩ : Caller (Worker E)).Nears ⟨stance, finished, w⟩ := by
  rcases Prod.lex_def.mp nears with less | ⟨same, leaves⟩
  · exact Prod.lex_def.mpr (.inl (Nat.add_lt_add_right less _))
  · exact Prod.lex_def.mpr (.inr ⟨congrArg (· + _) same, leaves⟩)

/-- A step of the worker brings a call forward. -/
theorem Waits.advances_work (waits : line.Waits id o init) (expected : o.expectedEntity = some id)
    (addressed : line.Addressed id) (calls : line.stance.command? = some command) {now : Instant}
    {shared : Shared E.Memory} {stride : Stride E}
    (step : line.holds.step? now shared = some stride) :
    Advances command line (line.work now shared) := by
  have strides := Worker.strides_of_step? step
  have moved : line.work now shared = { line with holds := stride.worker } := by
    simp only [Caller.work, step]
  have continues := continues_work calls now shared
  rw [moved] at continues ⊢
  have returnable {unread : List Outbound} (disconnected : stride.worker.Disconnected unread) :
      Advances command line { line with holds := stride.worker } :=
    .returnable continues (.inl disconnected.deaf)
  have dealt (handlingStep : Worker.HandlingStep id line.stance.asked line.holds stride.worker) :
      Advances command line { line with holds := stride.worker } := by
    cases handlingStep with
    | handling linked handles nears => exact .neared continues (nears_of_worker _ nears)
    | answered asks answers linked =>
        exact .returnable continues (.inr (by rw [linked.unread]; exact List.cons_ne_nil _ _))
    | disconnected disconnected => exact returnable disconnected
  obtain opens | handles := waits.pending
  · cases opens.strides expected waits.linked strides with
    | opening linked opens nears => exact .neared continues (nears_of_worker _ nears)
    | channelFailed uncommanded endsOnInit disconnected => exact returnable disconnected
    | dealt handlingStep => exact dealt handlingStep
  · refine dealt (handles.strides (fun command asks => ?_) waits.linked strides)
    exact addressed command (by rw [asked_eq_some asks]; rfl)

/-- The command can be queued at once. -/
def CanQueue (line : Caller (Worker E)) : Prop :=
  line.stance.asked = none ∧ line.holds.inbound.items.length < line.holds.inbound.capacity

/-- A command for which there is room is queued. -/
theorem Waits.advances_goOn (waits : line.Waits id o init)
    (calls : line.stance.command? = some command) (canQueue : line.CanQueue) :
    Advances command line (line.goOn init Worker.send Worker.receive) := by
  obtain ⟨stance, finished, w⟩ := line
  obtain rfl | rfl := command?_eq_some calls
  · have linked : w.Linked [] := waits.linked
    obtain ⟨-, sent⟩ | ⟨full, -⟩ := linked.send (.command command)
    · simp only [Caller.goOn, sent]
      refine .neared ⟨rfl, rfl⟩ (.left _ _ ?_)
      have more := w.distance_queueing (.command command)
      simp only [Caller.distance]
      omega
    · exact (Nat.not_lt_of_le full canQueue.2).elim
  · cases canQueue.1

/-- A call that waits for its worker does not wait in vain. -/
theorem Waits.exists_step (waits : line.Waits id o init)
    (calls : line.stance.command? = some command) (tight : ¬ line.CanQueue)
    (free : ¬ line.holds.Hangs command.commandId) {now : Instant} (late : line.holds.due ≤ now)
    (shared : Shared E.Memory) : ∃ stride, line.holds.step? now shared = some stride := by
  obtain ⟨stance, finished, w⟩ := line
  change ∃ stride, w.step? now shared = some stride
  have linked : w.Linked [] := waits.linked
  obtain opens | handles := waits.pending
  · cases opens with
    | unread new =>
        obtain (starting : w.stage = .starting) | ⟨since, waiting⟩ := new.still
        · exact ⟨_, by simp only [Worker.step?, starting]; rfl⟩
        · exact Worker.exists_step_of_items waiting (by rw [new.items]; exact List.cons_ne_nil _ _)
    | channelFailed stage => exact Worker.exists_step_of_delivering linked stage
  · cases handles with
    | idle stage live own items =>
        cases asks : stance.asked with
        | none =>
            have empty : w.inbound.items = [] := by rw [items, asks]; rfl
            exact (tight ⟨asks, by simp only [empty]; exact linked.roomIn⟩).elim
        | some other =>
            exact Worker.exists_step_of_items stage
              (by rw [items, asks]; exact List.cons_ne_nil _ _)
    | @busy other asks stage activeFor items =>
        obtain rfl : stance = .awaiting other := asked_eq_some asks
        obtain rfl : other = command := Option.some.inj calls
        cases found : w.stage with
        | running call => exact ⟨_, by simp only [Worker.step?, found]; rfl⟩
        | sleeping wake call =>
            have late : wake ≤ now := by
              simpa only [Worker.due, found] using late
            exact ⟨_, by simp only [Worker.step?, found, late, if_true]; rfl⟩
        | hanging ticket =>
            rw [found] at stage
            cases stage with
            | hanging own => exact (free ⟨ticket, found, own⟩).elim
        | ended ticket ending => exact ⟨_, by simp only [Worker.step?, found]; rfl⟩
        | delivering out => exact Worker.exists_step_of_delivering linked found
        | starting | waiting | stopped | failed =>
            rw [found] at stage
            cases stage

/-- Whatever happens brings a call forward, or changes nothing that it waits for. -/
theorem Waits.lineStep (waits : line.Waits id o init) (expected : o.expectedEntity = some id)
    (addressed : line.Addressed id) (calls : line.stance.command? = some command)
    (lineStep : LineStep id init line line') :
    Advances command line line' ∨ ∃ senders, line' = line.handled senders := by
  cases lineStep with
  | handled senders => exact .inr ⟨senders, rfl⟩
  | called => exact .inr ⟨line.holds.inbound.senders, call_of_calls calls _⟩
  | worked now shared =>
      cases step : line.holds.step? now shared with
      | none =>
          have same : line.work now shared = line := by simp only [Caller.work, step]
          exact .inr ⟨line.holds.inbound.senders, same⟩
      | some stride => exact .inl (waits.advances_work expected addressed calls step)
  | wentOn =>
      by_cases canQueue : line.CanQueue
      · exact .inl (waits.advances_goOn calls canQueue)
      · refine .inr ⟨line.holds.inbound.senders, ?_⟩
        obtain ⟨stance, finished, w⟩ := line
        have linked : w.Linked [] := waits.linked
        obtain rfl | rfl := command?_eq_some calls
        · obtain ⟨room, -⟩ | ⟨-, full⟩ := linked.send (.command command)
          · exact (canQueue ⟨rfl, room⟩).elim
          · simp only [Caller.goOn, full]
            rfl
        · simp only [Caller.goOn, linked.receive]
          rfl

/-- What advances a call does so whoever else has handles. -/
theorem Advances.of_handled {senders : Nat}
    (advances : Advances command (line.handled senders) line') :
    Advances command line line' := by
  cases advances with
  | returned returns => exact .returned returns
  | returnable continues canReturn =>
      exact .returnable ⟨continues.calls, continues.finished⟩ canReturn
  | neared continues nears => exact .neared ⟨continues.calls, continues.finished⟩ nears

/-- A host and its worker through all turns. The worker is let on at ever later times, and the
host goes on again and again. -/
structure FairRun (id : EntityId) (o : Options) (init : Init) (line : Nat → Caller (Worker E)) :
    Prop where
  expected : o.expectedEntity = some id
  paired : ∀ n, (line n).Paired id o init
  addressed : ∀ n, (line n).Addressed id
  lineStep : ∀ n, LineStep id init (line n) (line (n + 1))
  works : ∀ n deadline, ∃ i ≥ n, ∃ now ≥ deadline, ∃ shared,
    line (i + 1) = (line i).work now shared
  goesOn : ∀ n, ∃ i ≥ n, line (i + 1) = (line i).goOn init Worker.send Worker.receive

namespace FairRun

variable {line : Nat → Caller (Worker E)} {n m : Nat}

theorem canReturn_until (fairRun : FairRun id o init line)
    (calls : (line n).stance.command? = some command)
    (canReturn : (line n).CanReturn) (later : n ≤ m) :
    (∃ k ≥ n, Returns command (line n) (line k)) ∨
      Continues command (line n) (line m) ∧ (line m).CanReturn := by
  induction later with
  | refl => exact .inr ⟨⟨calls, rfl⟩, canReturn⟩
  | @step m later ih =>
      obtain returned | ⟨continues, canReturn⟩ := ih
      · exact .inl returned
      · obtain returns | ⟨continues', canReturn'⟩ :=
          (fairRun.paired m).canReturn_lineStep continues.calls canReturn (fairRun.lineStep m)
        · exact .inl ⟨m + 1, Nat.le_succ_of_le later, continues.returns returns⟩
        · exact .inr ⟨⟨continues'.calls, continues'.finished.trans continues.finished⟩, canReturn'⟩

theorem canReturn_returns (fairRun : FairRun id o init line)
    (calls : (line n).stance.command? = some command) (canReturn : (line n).CanReturn) :
    ∃ m ≥ n, Returns command (line n) (line m) := by
  obtain ⟨i, later, wentOn⟩ := fairRun.goesOn n
  obtain returned | ⟨continues, canReturn⟩ := fairRun.canReturn_until calls canReturn later
  · exact returned
  · refine ⟨i + 1, Nat.le_succ_of_le later, continues.returns ?_⟩
    rw [wentOn]
    exact (fairRun.paired i).returns continues.calls canReturn

theorem waits_handled (fairRun : FairRun id o init line)
    (calls : (line n).stance.command? = some command) (waits : (line n).Waits id o init)
    {senders : Nat} (same : line m = (line n).handled senders) :
    (line m).stance.command? = some command ∧ (line m).Waits id o init := by
  have calls' : (line m).stance.command? = some command := by
    rw [same]
    exact calls
  refine ⟨calls', ((fairRun.paired m).canReturn_or_waits calls').resolve_left ?_⟩
  rw [same]
  exact waits.not_canReturn

/-- Until the call comes forward it waits for the same. -/
theorem waits_until (fairRun : FairRun id o init line)
    (calls : (line n).stance.command? = some command) (waits : (line n).Waits id o init)
    (later : n ≤ m) :
    (∃ k ≥ n, Advances command (line n) (line k)) ∨
      ∃ senders, line m = (line n).handled senders := by
  induction later with
  | refl => exact .inr ⟨(line n).holds.inbound.senders, rfl⟩
  | @step m later ih =>
      obtain advanced | ⟨senders, same⟩ := ih
      · exact .inl advanced
      · obtain ⟨calls, waits⟩ := fairRun.waits_handled calls waits same
        obtain advances | ⟨senders', same'⟩ :=
          waits.lineStep fairRun.expected (fairRun.addressed m) calls (fairRun.lineStep m)
        · rw [same] at advances
          exact .inl ⟨m + 1, Nat.le_succ_of_le later, advances.of_handled⟩
        · exact .inr ⟨senders', same'.trans (by rw [same]; rfl)⟩

theorem waits_advances (fairRun : FairRun id o init line)
    (calls : (line n).stance.command? = some command) (waits : (line n).Waits id o init) :
    ∃ m ≥ n, Advances command (line n) (line m) ∨ (line m).holds.Hangs command.commandId := by
  by_cases hangs : (line n).holds.Hangs command.commandId
  · exact ⟨n, Nat.le_refl n, .inr hangs⟩
  have met {i : Nat} (later : n ≤ i)
      (next : (line i).stance.command? = some command → (line i).Waits id o init →
        ∀ senders, line i = (line n).handled senders →
          Advances command (line i) (line (i + 1))) :
      ∃ m ≥ n, Advances command (line n) (line m) ∨ (line m).holds.Hangs command.commandId := by
    obtain ⟨m, later, advances⟩ | ⟨senders, same⟩ := fairRun.waits_until calls waits later
    · exact ⟨m, later, .inl advances⟩
    · obtain ⟨calls, waits⟩ := fairRun.waits_handled calls waits same
      have advances := next calls waits senders same
      rw [same] at advances
      exact ⟨i + 1, Nat.le_succ_of_le later, .inl advances.of_handled⟩
  by_cases canQueue : (line n).CanQueue
  · obtain ⟨i, later, wentOn⟩ := fairRun.goesOn n
    refine met later fun calls waits senders same => ?_
    have canQueue : (line i).CanQueue := by
      rw [same]
      exact canQueue
    rw [wentOn]
    exact waits.advances_goOn calls canQueue
  · obtain ⟨i, later, now, late, shared, worked⟩ := fairRun.works n (line n).holds.due
    refine met later fun calls waits senders same => ?_
    have steps : ∃ stride, (line i).holds.step? now shared = some stride := by
      refine waits.exists_step calls ?_ ?_ ?_ shared
      all_goals rw [same]
      · exact canQueue
      · exact hangs
      · exact late
    obtain ⟨stride, step⟩ := steps
    rw [worked]
    exact waits.advances_work fairRun.expected (fairRun.addressed i) calls step

/-- Every call returns, unless its handler hangs. -/
theorem returns (fairRun : FairRun id o init line)
    (calls : (line n).stance.command? = some command) :
    ∃ m ≥ n, Returns command (line n) (line m) ∨ (line m).holds.Hangs command.commandId := by
  induction here : line n using wellFounded_nears.induction generalizing n with
  | h _ ih =>
      subst here
      obtain canReturn | waits := (fairRun.paired n).canReturn_or_waits calls
      · obtain ⟨m, later, returns⟩ := fairRun.canReturn_returns calls canReturn
        exact ⟨m, later, .inl returns⟩
      obtain ⟨k, later, advances | hangs⟩ := fairRun.waits_advances calls waits
      · cases advances with
        | returned returns => exact ⟨k, later, .inl returns⟩
        | returnable continues canReturn =>
            obtain ⟨m, latest, returns⟩ := fairRun.canReturn_returns continues.calls canReturn
            exact ⟨m, Nat.le_trans later latest, .inl (continues.returns returns)⟩
        | neared continues nears =>
            obtain ⟨m, latest, returns | hangs⟩ := ih (line k) nears continues.calls rfl
            · exact ⟨m, Nat.le_trans later latest, .inl (continues.returns returns)⟩
            · exact ⟨m, Nat.le_trans later latest, .inr hangs⟩
      · exact ⟨k, later, .inr hangs⟩

end FairRun

end Caller

end EntityEngine
