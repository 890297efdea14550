import EntityEngine.Proofs.Returning
import EntityEngine.Proofs.Settling

/-!
# Hosts that only call

A host among all others of its registry: others open channels, look up and wait for workers, use
channels of their own and clone and drop handles of any worker, while time passes. Nothing of
that reaches the line between the host and its worker but how many handles there are. So what
holds of that line holds in every order of what happens, and a call returns under every plan
that lets the worker, the clock and the host go on.
-/

namespace EntityEngine

/-- Others do not send to the worker, nor take its answers or stop them. -/
def Happening.LeavesAlone (generation : Nat) : Happening → Prop
  | .send other _ | .receive other | .dropReplies other => other ≠ generation
  | _ => True

theorem Happening.leavesAlone_of_isInner {generation : Nat} {happening : Happening}
    (inner : happening.isInner = true) : happening.LeavesAlone generation := by
  cases happening with
  | work | record | publish => trivial
  | _ => cases inner

namespace Registry

variable {E : Entity} {r r' : Registry E} {id : EntityId} {generation other : Nat} {w : Worker E}

theorem workers_modifyWorker (held : r.workers[generation]? = some w) (f : Worker E → Worker E) :
    (r.modifyWorker generation f).workers[generation]? = some (f w) := by
  simp [modifyWorker, held]

theorem workers_modifyWorker_of_ne (held : r.workers[generation]? = some w)
    (apart : other ≠ generation) (f : Worker E → Worker E) :
    (r.modifyWorker other f).workers[generation]? = some w := by
  simp [modifyWorker, apart, held]

/-- What others do to their handles of any worker. -/
theorem handled_modifyWorker (held : r.workers[generation]? = some w) {f : Worker E → Worker E}
    (handles : ∀ w, ∃ senders, f w = w.handled senders) :
    ∃ senders, (r.modifyWorker other f).workers[generation]? = some (w.handled senders) := by
  by_cases same : other = generation
  · subst same
    obtain ⟨senders, handled⟩ := handles w
    exact ⟨senders, by simp [modifyWorker, held, handled]⟩
  · exact ⟨w.inbound.senders, workers_modifyWorker_of_ne held same f⟩

theorem handled_handle (held : r.workers[generation]? = some w) (id : EntityId) :
    ∃ senders, (r.handle id).registry.workers[generation]? = some (w.handled senders) := by
  have cloned (other : Nat) : ∃ senders,
      (r.reap.1.cloneHandle other).workers[generation]? = some (w.handled senders) :=
    handled_modifyWorker (r := r.reap.1) held fun w => ⟨w.inbound.senders + 1, rfl⟩
  unfold Registry.handle
  simp only
  split
  · exact cloned _
  · exact ⟨w.inbound.senders, held⟩

theorem workers_openChannel (held : r.workers[generation]? = some w) (id : EntityId) :
    (r.openChannel id).registry.workers[generation]? = some w := by
  have ways := r.opens id
  generalize r.openChannel id = opening at ways
  cases ways with
  | taken => exact held
  | oversized => exact held
  | opened => exact (List.getElem?_append_left (List.getElem?_eq_some_iff.mp held).1).trans held

theorem workers_work_of_ne (held : r.workers[generation]? = some w) (apart : other ≠ generation) :
    (r.work other).workers[generation]? = some w := by
  unfold Registry.work
  split
  · exact held
  · split
    · exact held
    · simp [stepped, apart, held]

/-- A channel is opened with a worker that has no message yet. -/
theorem Orderly.new_openChannel (orderly : r.Orderly)
    (channel : (r.openChannel id).result = .channel generation) :
    ∃ w, (r.openChannel id).registry.workers[generation]? = some w ∧ w.Linked [] ∧
      w.New (r.channelOptions id (r.isTombstoned id).result) [] := by
  generalize account : r.openChannel id = opening at channel
  have ways := r.opens id
  rw [account] at ways
  cases ways with
  | taken => cases channel
  | oversized => cases channel
  | @opened notices worker untaken createsWorker =>
      cases channel
      have found : ((r.cleared id).addWorker id worker).workers[r.roster.nextGeneration]? =
          some worker := by
        rw [Roster.nextGeneration, ← orderly.paired]
        exact List.getElem?_concat_length
      refine ⟨worker, found, ?_⟩
      unfold CreatesWorker Worker.create at createsWorker
      split at createsWorker
      · cases createsWorker
      · next fits =>
          cases createsWorker
          have room := (Worker.capacityCrash?_eq_none_iff.mp fits).1
          exact ⟨⟨rfl, rfl, Nat.one_ne_zero, rfl, room, room⟩, rfl, .inl rfl, rfl⟩

/-- How a call returns in which no time passes, if it does. -/
def Reached.called? : Reached → Option Called
  | .answered message => some (.answered message)
  | .workerGone => some .workerGone
  | .waiting | .full => none

theorem receive_counting (r : Registry E) (turns : Nat) (lastTurns : List Nat)
    (generation : Nat) : (r.counting turns lastTurns).receive generation =
      match r.receive generation with
      | .message out registry => .message out (registry.counting turns lastTurns)
      | .pending => .pending
      | .closed => .closed := by
  unfold Registry.receive
  simp only [Registry.counting]
  split
  · rfl
  · split <;> rfl

end Registry

namespace Crowd

variable {E : Entity} {c : Crowd E} {generation : Nat} {w : Worker E}

def send (generation : Nat) (c : Crowd E) (message : Inbound) : Except Refusal (Crowd E) :=
  (c.registry.send generation message).map fun registry => { c with registry }

def receive (generation : Nat) (c : Crowd E) : Received (Crowd E) :=
  match c.registry.receive generation with
  | .message out registry => .message out { c with registry }
  | .pending => .pending
  | .closed => .closed

/-- The crowd with another worker in the place of this one. -/
def putting (generation : Nat) (c : Crowd E) (w : Worker E) : Crowd E :=
  { c with registry := c.registry.modifyWorker generation fun _ => w }

theorem workers_putting (held : c.registry.workers[generation]? = some w) (w' : Worker E) :
    (c.putting generation w').registry.workers[generation]? = some w' :=
  Registry.workers_modifyWorker held _

theorem send_of_held (held : c.registry.workers[generation]? = some w) (message : Inbound) :
    c.send generation message = (w.send message).map (c.putting generation) := by
  simp only [Crowd.send, Registry.send, held]
  cases w.send message <;> rfl

theorem receive_of_held (held : c.registry.workers[generation]? = some w) :
    c.receive generation = match w.receive with
      | .message out w' => .message out (c.putting generation w')
      | .pending => .pending
      | .closed => .closed := by
  simp only [Crowd.receive, Registry.receive, held]
  cases w.receive <;> rfl

/-- What others do to a worker that is not theirs. -/
theorem handled_next (held : c.registry.workers[generation]? = some w) {happening : Happening}
    (leavesAlone : happening.LeavesAlone generation) (still : happening ≠ .work generation) :
    ∃ senders, (c.next happening).registry.workers[generation]? = some (w.handled senders) := by
  have kept {r : Registry E} (same : r.workers[generation]? = some w) :
      ∃ senders, r.workers[generation]? = some (w.handled senders) :=
    ⟨w.inbound.senders, same⟩
  cases happening with
  | openChannel id => exact kept (Registry.workers_openChannel held id)
  | handle id => exact Registry.handled_handle held id
  | beginWait id =>
      simp only [next, beginWait]
      split <;> exact kept held
  | endWait index =>
      simp only [next, endWait]
      split
      · split <;> exact kept held
      · exact kept held
  | send other message =>
      simp only [next]
      split
      · split
        · next sent =>
            obtain ⟨f, -, rfl⟩ := Registry.exists_hosts_of_send sent
            exact kept (Registry.workers_modifyWorker_of_ne held leavesAlone f)
        · exact kept held
      · exact kept held
  | receive other =>
      simp only [next]
      split
      · next received =>
          obtain ⟨f, -, rfl⟩ := Registry.exists_hosts_of_receive received
          exact kept (Registry.workers_modifyWorker_of_ne held leavesAlone f)
      · exact kept held
  | cloneHandle other =>
      simp only [next]
      split
      · exact Registry.handled_modifyWorker held fun w => ⟨w.inbound.senders + 1, rfl⟩
      · exact kept held
  | dropHandle other =>
      exact Registry.handled_modifyWorker held fun w => ⟨w.inbound.senders - 1, rfl⟩
  | dropReplies other => exact kept (Registry.workers_modifyWorker_of_ne held leavesAlone _)
  | work other =>
      have apart : other ≠ generation := fun same => still (congrArg _ same)
      exact kept (Registry.workers_work_of_ne held apart)
  | _ => exact kept held

end Crowd

/-- A channel in the hands of a host. -/
structure Channel where
  entityId : EntityId
  generation : Nat

/-- What a host does that only calls, or what happens beside it. -/
inductive Act where
  | other (happening : Happening)
  | call (commandId : UInt64) (operation : String) (payload : Option Json)
  | goOn

/-- Nobody else uses the channel of the host. -/
def Act.LeavesAlone (channel : Channel) : Act → Prop
  | .other happening => happening.LeavesAlone channel.generation
  | _ => True

namespace Caller

variable {E : Entity} {host : Caller (Crowd E)} {line : Caller (Worker E)} {id : EntityId}
  {o : Options} {init : Init} {channel : Channel}

/-- What happens next to a host that has opened a channel. -/
def next (channel : Channel) (init : Init) (host : Caller (Crowd E)) : Act → Caller (Crowd E)
  | .other happening => { host with holds := host.holds.next happening }
  | .call commandId operation payload =>
    host.call (.plain commandId channel.entityId operation payload)
  | .goOn => host.goOn init (Crowd.send channel.generation) (Crowd.receive channel.generation)

def run (channel : Channel) (init : Init) (host : Caller (Crowd E)) (acts : List Act) :
    Caller (Crowd E) :=
  acts.foldl (next channel init) host

/-- The line is the host with the worker of its channel. -/
structure Views (channel : Channel) (host : Caller (Crowd E)) (line : Caller (Worker E)) :
    Prop where
  held : host.holds.registry.workers[channel.generation]? = some line.holds
  stance : line.stance = host.stance
  finished : line.finished = host.finished

theorem Views.unique {other : Caller (Worker E)} (views : Views channel host line)
    (views' : Views channel host other) : line = other := by
  obtain ⟨stance, finished, w⟩ := line
  obtain ⟨stance', finished', w'⟩ := other
  obtain rfl := views.stance.trans views'.stance.symm
  obtain rfl := views.finished.trans views'.finished.symm
  obtain rfl := Option.some.inj (views.held.symm.trans views'.held)
  rfl

theorem Views.goOn (views : Views channel host line) (init : Init) :
    Views channel (host.next channel init .goOn) (line.goOn init Worker.send Worker.receive) := by
  obtain ⟨_, _, c⟩ := host
  obtain ⟨stance, finished, w⟩ := line
  obtain ⟨held, rfl, rfl⟩ := views
  have held : c.registry.workers[channel.generation]? = some w := held
  have putting (w' : Worker E) := Crowd.workers_putting held w'
  unfold next Caller.goOn
  cases stance with
  | ready => exact ⟨held, rfl, rfl⟩
  | opening =>
      simp only [Crowd.send_of_held held]
      rcases w.send (.init init) with (_ | _) | w'
      · exact ⟨held, rfl, rfl⟩
      · exact ⟨held, rfl, rfl⟩
      · exact ⟨putting w', rfl, rfl⟩
  | sending command =>
      simp only [Crowd.send_of_held held]
      rcases w.send (.command command) with (_ | _) | w'
      · exact ⟨held, rfl, rfl⟩
      · exact ⟨held, rfl, rfl⟩
      · exact ⟨putting w', rfl, rfl⟩
  | awaiting command =>
      simp only [Crowd.receive_of_held held]
      cases w.receive with
      | message out w' => exact ⟨putting w', rfl, rfl⟩
      | pending => exact ⟨held, rfl, rfl⟩
      | closed => exact ⟨held, rfl, rfl⟩

theorem Views.call (views : Views channel host line) (command : Command) :
    Views channel (host.call command) (line.call command) := by
  obtain ⟨_, _, c⟩ := host
  obtain ⟨stance, finished, w⟩ := line
  obtain ⟨held, rfl, rfl⟩ := views
  cases stance <;> exact ⟨held, rfl, rfl⟩

theorem Views.work (views : Views channel host line) (init : Init) :
    Views channel (host.next channel init (.other (.work channel.generation)))
      (line.work host.holds.registry.now host.holds.registry.shared) := by
  obtain ⟨_, _, c⟩ := host
  obtain ⟨stance, finished, w⟩ := line
  obtain ⟨held, rfl, rfl⟩ := views
  have held : c.registry.workers[channel.generation]? = some w := held
  simp only [Caller.next, Crowd.next, Registry.work, held, Caller.work]
  cases w.step? c.registry.now c.registry.shared with
  | none => exact ⟨held, rfl, rfl⟩
  | some stride =>
      have within := (List.getElem?_eq_some_iff.mp held).1
      exact ⟨List.getElem?_set_self within, rfl, rfl⟩

theorem Views.lineStep (views : Views channel host line) {act : Act}
    (leavesAlone : act.LeavesAlone channel) :
    ∃ line', LineStep channel.entityId init line line' ∧
      Views channel (host.next channel init act) line' := by
  cases act with
  | goOn => exact ⟨_, .wentOn, views.goOn init⟩
  | call commandId operation payload =>
      exact ⟨_, .called rfl, views.call (.plain commandId channel.entityId operation payload)⟩
  | other happening =>
      by_cases works : happening = .work channel.generation
      · subst works
        exact ⟨_, .worked _ _, views.work init⟩
      · obtain ⟨senders, held⟩ := Crowd.handled_next views.held leavesAlone works
        exact ⟨_, .handled senders, held, views.stance, views.finished⟩

/-- What holds of a host and its worker as long as the channel is the host's alone. -/
structure Sound (channel : Channel) (o : Options) (init : Init) (host : Caller (Crowd E))
    (line : Caller (Worker E)) : Prop where
  views : Views channel host line
  paired : line.Paired channel.entityId o init
  addressed : line.Addressed channel.entityId

theorem Sound.next (sound : Sound channel o init host line)
    (expected : o.expectedEntity = some channel.entityId) {act : Act}
    (leavesAlone : act.LeavesAlone channel) :
    ∃ line', Sound channel o init (host.next channel init act) line' := by
  obtain ⟨line', lineStep, views⟩ := sound.views.lineStep leavesAlone
  exact ⟨line', views, sound.paired.lineStep expected sound.addressed lineStep,
    sound.addressed.lineStep lineStep⟩

theorem sound_run (sound : Sound channel o init host line)
    (expected : o.expectedEntity = some channel.entityId) {acts : List Act}
    (leavesAlone : ∀ act ∈ acts, act.LeavesAlone channel) :
    ∃ line', Sound channel o init (host.run channel init acts) line' := by
  induction acts generalizing host line with
  | nil => exact ⟨line, sound⟩
  | cons act later ih =>
      obtain ⟨first, rest⟩ := List.forall_mem_cons.mp leavesAlone
      obtain ⟨line', sound'⟩ := sound.next expected first
      exact ih sound' rest

/-- Before the `Init` there is only a worker without messages. -/
theorem sound_opened {c : Crowd E} (orderly : c.registry.Orderly)
    (opened : (c.registry.openChannel channel.entityId).result = .channel channel.generation)
    (init : Init) :
    let o := c.registry.channelOptions channel.entityId
      (c.registry.isTombstoned channel.entityId).result
    ∃ line, Sound channel o init ⟨.opening, [], c.next (.openChannel channel.entityId)⟩ line := by
  obtain ⟨w, held, linked, new⟩ := orderly.new_openChannel opened
  exact ⟨⟨.opening, [], w⟩, ⟨held, rfl, rfl⟩, .opening rfl rfl linked new, nofun⟩

theorem becomes_goOn (channel : Channel) (init : Init) (host : Caller (Crowd E)) :
    host.holds.registry.Becomes (host.next channel init .goOn).holds.registry := by
  have sent {message : Inbound} {c : Crowd E}
      (sent : host.holds.send channel.generation message = .ok c) :
      host.holds.registry.Becomes c.registry := by
    unfold Crowd.send at sent
    cases account : host.holds.registry.send channel.generation message with
    | error refusal =>
        rw [account] at sent
        cases sent
    | ok registry =>
        rw [account] at sent
        cases sent
        obtain ⟨f, hosts, rfl⟩ := Registry.exists_hosts_of_send account
        exact .hosted hosts
  have received {out : Outbound} {c : Crowd E}
      (received : host.holds.receive channel.generation = .message out c) :
      host.holds.registry.Becomes c.registry := by
    unfold Crowd.receive at received
    split at received
    · next account =>
        cases received
        obtain ⟨f, hosts, rfl⟩ := Registry.exists_hosts_of_receive account
        exact .hosted hosts
    · cases received
    · cases received
  unfold next Caller.goOn
  obtain ⟨stance, finished, c⟩ := host
  cases stance with
  | ready => exact .same
  | opening =>
      simp only
      split
      · next c' account => exact sent account
      · exact .same
      · exact .same
  | sending command =>
      simp only
      split
      · next c' account => exact sent account
      · exact .same
      · exact .same
  | awaiting command =>
      simp only
      split
      · next out c' account => exact received account
      · exact .same
      · exact .same

theorem now_next (channel : Channel) (init : Init) (host : Caller (Crowd E)) (act : Act) :
    host.holds.registry.now ≤ (host.next channel init act).holds.registry.now := by
  cases act with
  | other happening => exact (host.holds.becomes_next happening).now_le
  | goOn => exact (becomes_goOn channel init host).now_le
  | call commandId operation payload =>
      obtain ⟨stance, finished, c⟩ := host
      cases stance <;> exact Nat.le_refl _

end Caller

/-- Which act comes at which turn. -/
abbrev Plan := Nat → Act

namespace Plan

def upTo (plan : Plan) (n : Nat) : List Act := (List.range n).map plan

/-- The worker is let on, time passes and the host goes on, again and again. -/
structure Fair (plan : Plan) (channel : Channel) : Prop where
  works : ∀ n, ∃ i ≥ n, plan i = .other (.work channel.generation)
  passes : ∀ n, ∃ i ≥ n, ∃ span > 0, plan i = .other (.pass span)
  goesOn : ∀ n, ∃ i ≥ n, plan i = .goOn

/-- Some acts, and then turns of the worker, the clock and the host. -/
def after (channel : Channel) (acts : List Act) : Plan := fun n =>
  acts[n]?.getD
    (if n % 3 = 0 then .other (.work channel.generation)
    else if n % 3 = 1 then .other (.pass 1) else .goOn)

theorem after_of_le (channel : Channel) {acts : List Act} {n : Nat} (late : acts.length ≤ n) :
    after channel acts n = if n % 3 = 0 then .other (.work channel.generation)
      else if n % 3 = 1 then .other (.pass 1) else .goOn := by
  rw [after, List.getElem?_eq_none late, Option.getD_none]

theorem fair_after (channel : Channel) (acts : List Act) : (after channel acts).Fair channel where
  works n := by
    refine ⟨3 * (n + acts.length), by omega, ?_⟩
    rw [after_of_le channel (by omega), if_pos (by omega)]
  passes n := by
    refine ⟨3 * (n + acts.length) + 1, by omega, 1, Nat.one_pos, ?_⟩
    rw [after_of_le channel (by omega), if_neg (by omega), if_pos (by omega)]
  goesOn n := by
    refine ⟨3 * (n + acts.length) + 2, by omega, ?_⟩
    rw [after_of_le channel (by omega), if_neg (by omega), if_neg (by omega)]

theorem leavesAlone_after {channel : Channel} {acts : List Act}
    (leavesAlone : ∀ act ∈ acts, act.LeavesAlone channel) (n : Nat) :
    (after channel acts n).LeavesAlone channel := by
  cases found : acts[n]? with
  | some act =>
      rw [after, found, Option.getD_some]
      exact leavesAlone act (List.mem_of_getElem? found)
  | none =>
      rw [after_of_le channel (List.getElem?_eq_none_iff.mp found)]
      split
      · trivial
      · split <;> trivial

theorem upTo_after (channel : Channel) (acts : List Act) :
    (after channel acts).upTo acts.length = acts := by
  refine List.ext_getElem (by simp [upTo]) fun n _ within => ?_
  simp [upTo, after, within]

end Plan

namespace Caller

variable {E : Entity} {host : Caller (Crowd E)} {o : Options} {init : Init} {channel : Channel}
  {plan : Plan} {n m : Nat}

theorem run_upTo_succ (channel : Channel) (init : Init) (host : Caller (Crowd E)) (plan : Plan)
    (n : Nat) : host.run channel init (plan.upTo (n + 1)) =
      (host.run channel init (plan.upTo n)).next channel init (plan n) := by
  simp only [run, Plan.upTo, List.range_succ, List.map_append, List.foldl_append,
    List.map_cons, List.map_nil, List.foldl_cons, List.foldl_nil]

theorem now_upTo (channel : Channel) (init : Init) (host : Caller (Crowd E)) (plan : Plan)
    (later : n ≤ m) :
    (host.run channel init (plan.upTo n)).holds.registry.now ≤
      (host.run channel init (plan.upTo m)).holds.registry.now := by
  induction later with
  | refl => exact Nat.le_refl _
  | step later ih =>
      rw [run_upTo_succ]
      exact Nat.le_trans ih (now_next channel init _ _)

/-- Every moment comes. -/
theorem exists_now_upTo (fair : plan.Fair channel) (init : Init) (host : Caller (Crowd E))
    (n : Nat) (deadline : Instant) :
    ∃ m ≥ n, deadline ≤ (host.run channel init (plan.upTo m)).holds.registry.now := by
  induction deadline with
  | zero => exact ⟨n, Nat.le_refl n, Nat.zero_le _⟩
  | succ deadline ih =>
      obtain ⟨m, later, reached⟩ := ih
      obtain ⟨i, latest, span, some, passes⟩ := fair.passes m
      refine ⟨i + 1, Nat.le_succ_of_le (Nat.le_trans later latest), ?_⟩
      rw [run_upTo_succ, passes]
      exact Nat.add_le_add (Nat.le_trans reached (now_upTo channel init host plan latest)) some

/-- A host with its worker, turn by turn. -/
theorem exists_fairRun (expected : o.expectedEntity = some channel.entityId)
    {line : Caller (Worker E)} (sound : Sound channel o init host line)
    (leavesAlone : ∀ n, (plan n).LeavesAlone channel) (fair : plan.Fair channel) :
    ∃ line : Nat → Caller (Worker E), FairRun channel.entityId o init line ∧
      ∀ n, Views channel (host.run channel init (plan.upTo n)) (line n) := by
  have sounds (n : Nat) : ∃ line, Sound channel o init (host.run channel init (plan.upTo n)) line :=
    sound_run sound expected fun act member => by
      obtain ⟨i, -, rfl⟩ := List.mem_map.mp member
      exact leavesAlone i
  choose line sound using sounds
  refine ⟨line, ⟨expected, fun n => (sound n).paired, fun n => (sound n).addressed, ?_, ?_, ?_⟩,
    fun n => (sound n).views⟩
  · intro n
    obtain ⟨line', lineStep, views⟩ := (sound n).views.lineStep (leavesAlone n)
    rw [← run_upTo_succ] at views
    rwa [(sound (n + 1)).views.unique views]
  · intro n deadline
    obtain ⟨m, later, reached⟩ := exists_now_upTo fair init host n deadline
    obtain ⟨i, latest, works⟩ := fair.works m
    have views := (sound i).views.work init
    rw [← works, ← run_upTo_succ] at views
    exact ⟨i, Nat.le_trans later latest, _,
      Nat.le_trans reached (now_upTo channel init host plan latest), _,
      (sound (i + 1)).views.unique views⟩
  · intro n
    obtain ⟨i, later, goesOn⟩ := fair.goesOn n
    have views := (sound i).views.goOn init
    rw [← goesOn, ← run_upTo_succ] at views
    exact ⟨i, later, (sound (i + 1)).views.unique views⟩

/-- What a host makes of a call through the registry. -/
def reaching {σ : Type} (host : Caller σ) (command : Command) : Registry.Reached → Caller σ
  | .answered message => host.finish command (.answered message)
  | .waiting => { host with stance := .awaiting command }
  | .full => { host with stance := .sending command }
  | .workerGone => host.finish command .workerGone

theorem finished_reaching {σ : Type} (host : Caller σ) (command : Command)
    {reached : Registry.Reached} {result : Called} (called : reached.called? = some result) :
    (host.reaching command reached).finished =
      host.finished ++ [⟨command.commandId, result⟩] := by
  cases reached <;> cases called <;> rfl

theorem run_append (host : Caller (Crowd E)) (acts later : List Act) :
    host.run channel init (acts ++ later) = (host.run channel init acts).run channel init later :=
  List.foldl_append

theorem run_other (host : Caller (Crowd E)) (happenings : List Happening) :
    host.run channel init (happenings.map .other) =
      { host with holds := host.holds.run happenings } := by
  induction happenings generalizing host with
  | nil => rfl
  | cons happening later ih => exact ih (host.next channel init (.other happening))

/-- A call through the registry, in which no time passes, is made of acts. -/
theorem exists_run_call (channel : Channel) (init : Init) (r : Registry E)
    (waiters : List Waiter) (finished : List Finished) (commandId : UInt64) (operation : String)
    (payload : Option Json) :
    let command := Command.plain commandId channel.entityId operation payload
    let call := r.call channel.generation command
    ∃ acts : List Act, (∀ act ∈ acts, act.LeavesAlone channel) ∧
      (⟨.ready, finished, ⟨r, waiters⟩⟩ : Caller (Crowd E)).run channel init acts =
        (⟨.ready, finished, ⟨call.registry.counting r.turns r.lastTurns, waiters⟩⟩ :
          Caller (Crowd E)).reaching command call.result := by
  intro command call
  cases sent : r.send channel.generation (.command command) with
  | error refusal =>
      refine ⟨[.call commandId operation payload, .goOn], by simp [Act.LeavesAlone], ?_⟩
      cases refusal <;>
        simp only [call, Registry.call, run, List.foldl_cons, List.foldl_nil, Caller.next,
          Caller.call, Caller.goOn, Crowd.send, command, sent] <;> rfl
  | ok queued =>
      obtain ⟨happenings, inner, settles⟩ := queued.exists_run_settle
      refine ⟨[.call commandId operation payload, .goOn] ++ happenings.map .other ++ [.goOn],
        ?_, ?_⟩
      · intro act member
        simp only [List.mem_append, List.mem_cons, List.not_mem_nil, or_false,
          List.mem_map] at member
        obtain ((rfl | rfl) | ⟨happening, found, rfl⟩) | rfl := member
        · trivial
        · trivial
        · exact Happening.leavesAlone_of_isInner (inner happening found)
        · trivial
      · have counts : queued.turns = r.turns ∧ queued.lastTurns = r.lastTurns := by
          obtain ⟨f, -, rfl⟩ := Registry.exists_hosts_of_send sent
          exact ⟨rfl, rfl⟩
        have begun : (⟨.ready, finished, ⟨r, waiters⟩⟩ : Caller (Crowd E)).run channel init
            [.call commandId operation payload, .goOn] =
              ⟨.awaiting command, finished, ⟨queued, waiters⟩⟩ := by
          simp only [run, List.foldl_cons, List.foldl_nil, Caller.next, Caller.call, Caller.goOn,
            Crowd.send, command, sent]
          rfl
        rw [run_append, run_append, begun, run_other]
        simp only [settles, counts.1, counts.2]
        simp only [run, List.foldl_cons, List.foldl_nil, Caller.next, Caller.goOn, Crowd.receive,
          Registry.receive_counting, call, Registry.call, sent]
        cases queued.settle.registry.receive channel.generation <;> rfl

/-- The worker of the channel hangs in the handler of a command. -/
def Hangs (channel : Channel) (commandId : UInt64) (host : Caller (Crowd E)) : Prop :=
  ∃ w, host.holds.registry.workers[channel.generation]? = some w ∧ w.Hangs commandId

/-- A host that only calls gets to each command its own answer, as long as there is a worker. Of
a channel that never began the first call gets the failure; after that, or when the worker is
gone, there is nothing more to be got. A call through the registry, in which no time passes, is
one of these calls. Every call returns that does not hang. -/
theorem run_calls (settings : Settings) (tracer : Tracer) (supply : Nat → Uuid)
    (before : List Happening) (channel : Channel) (init : Init)
    (opened : (((Crowd.start settings tracer supply : Crowd E).run before).registry.openChannel
      channel.entityId).result = .channel channel.generation) :
    let c := (Crowd.start settings tracer supply : Crowd E).run before
    let o := c.registry.channelOptions channel.entityId
      (c.registry.isTombstoned channel.entityId).result
    let endsOnInit := (Session.fresh o : Session E).EndsOnInit init
    let host : Caller (Crowd E) := ⟨.opening, [], c.next (.openChannel channel.entityId)⟩
    (∀ acts : List Act, (∀ act ∈ acts, act.LeavesAlone channel) →
      let t := host.run channel init acts
      Pairs endsOnInit t.finished ∧
        (t.stance = .ready → ∀ commandId operation payload result,
          (t.holds.registry.call channel.generation
            (.plain commandId channel.entityId operation payload)).result.called? = some result →
          Pairs endsOnInit (t.finished ++ [⟨commandId, result⟩]))) ∧
    ∀ plan : Plan, (∀ n, (plan n).LeavesAlone channel) → plan.Fair channel →
      ∀ n command, (host.run channel init (plan.upTo n)).stance.command? = some command →
        ∃ m ≥ n,
          (∃ result, (host.run channel init (plan.upTo m)).finished =
            (host.run channel init (plan.upTo n)).finished ++ [⟨command.commandId, result⟩]) ∨
          (host.run channel init (plan.upTo m)).Hangs channel command.commandId := by
  intro c o endsOnInit host
  have orderly : c.registry.Orderly :=
    Crowd.orderly_run (Registry.orderly_create settings tracer supply) before
  obtain ⟨line, sound⟩ := sound_opened orderly opened init
  have pairs (acts : List Act) (leavesAlone : ∀ act ∈ acts, act.LeavesAlone channel) :
      Pairs endsOnInit (host.run channel init acts).finished := by
    obtain ⟨line', sound'⟩ := sound_run sound rfl leavesAlone
    rw [← sound'.views.finished]
    exact sound'.paired.pairs
  constructor
  · intro acts leavesAlone t
    refine ⟨pairs acts leavesAlone, fun ready commandId operation payload result called => ?_⟩
    obtain ⟨later, leavesAlone', same⟩ :=
      exists_run_call channel init t.holds.registry t.holds.waiters
      t.finished commandId operation payload
    have idle : t = ⟨.ready, t.finished, ⟨t.holds.registry, t.holds.waiters⟩⟩ := by rw [← ready]
    have whole := pairs (acts ++ later) fun act member =>
      (List.mem_append.mp member).elim (leavesAlone act) (leavesAlone' act)
    rw [run_append] at whole
    change Pairs endsOnInit (t.run channel init later).finished at whole
    rw [idle, same, finished_reaching _ _ called] at whole
    exact whole
  · intro plan leavesAlone fair n command calls
    obtain ⟨lines, fairRun, views⟩ := exists_fairRun rfl sound leavesAlone fair
    rw [← (views n).stance] at calls
    obtain ⟨m, later, ⟨result, returned⟩ | hangs⟩ := fairRun.returns calls
    · rw [(views m).finished, (views n).finished] at returned
      exact ⟨m, later, .inl ⟨result, returned⟩⟩
    · exact ⟨m, later, .inr ⟨_, (views m).held, hangs⟩⟩

/-- A counter is told to add, and has been told again when the first answer was taken. -/
theorem run_calls_counter :
    let channel : Channel := ⟨⟨"c"⟩, 0⟩
    let init : Init := ⟨⟨"c"⟩, none⟩
    let c : Crowd Samples.Counter.entity := Crowd.start .default .silent Uuid.ofNat
    let o := c.registry.channelOptions channel.entityId
      (c.registry.isTombstoned channel.entityId).result
    let host : Caller (Crowd Samples.Counter.entity) :=
      ⟨.opening, [], c.next (.openChannel channel.entityId)⟩
    let acts : List Act := [.goOn, .call 1 "increaseBy" (Samples.Counter.payload 4), .goOn] ++
      List.replicate 6 (.other (.work 0)) ++
      [.goOn, .call 2 "increaseBy" (Samples.Counter.payload 5)]
    let called := host.run channel init acts
    let plan := Plan.after channel acts
    called.finished.map Finished.commandId = [1] ∧ (∀ f ∈ called.finished, ¬ f.Gone) ∧
      Pairs ((Session.fresh o : Session Samples.Counter.entity).EndsOnInit init) called.finished ∧
      ∃ m ≥ acts.length,
        (∃ result, (host.run channel init (plan.upTo m)).finished =
          called.finished ++ [⟨2, result⟩]) ∨
        (host.run channel init (plan.upTo m)).Hangs channel 2 := by
  intro channel init c o host acts called plan
  have opened : (c.registry.openChannel channel.entityId).result =
      .channel channel.generation := rfl
  have leavesAlone : ∀ act ∈ acts, act.LeavesAlone channel := by
    simp [acts, Act.LeavesAlone, Happening.LeavesAlone]
  obtain ⟨pairs, returns⟩ := run_calls (E := Samples.Counter.entity) .default .silent Uuid.ofNat []
    channel init opened
  have again := returns plan (Plan.leavesAlone_after leavesAlone)
    (Plan.fair_after channel acts) acts.length
    (.plain 2 channel.entityId "increaseBy" (Samples.Counter.payload 5))
  rw [Plan.upTo_after] at again
  have calls : called.stance.command? =
      some (.plain 2 channel.entityId "increaseBy" (Samples.Counter.payload 5)) := by
    decide +kernel
  have first : called.finished.map Finished.commandId = [1] := by decide +kernel
  have there : ∀ f ∈ called.finished, f.result ≠ .workerGone := by decide +kernel
  exact ⟨first, there, (pairs acts leavesAlone).1, again calls⟩

end Caller

end EntityEngine
