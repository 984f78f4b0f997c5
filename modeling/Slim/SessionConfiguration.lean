import Slim.FireAndForgetSticky
import Slim.StreamRecovery

/-!
# The configuration that a session reports and the one that it applies

`session_config` reads a configuration behind a lock, and `set_session_config` replaces it
there.  The task of a session has a copy of its own.  A fire-and-forget session brings the
copy up to date by a message, which a new task sends for every change, so that the messages
may come in another order than the changes.  A streaming session takes the copy when it is
created, and leaves it as it is.
-/

namespace Slim

open HashKey Machine Runs

/-- What `set_session_config` leaves behind the lock. -/
theorem Common.setSessionConfig_eq_ok {common changed : Common} {proposed : SessionConfig}
    (hset : common.setSessionConfig proposed = .ok changed) :
    common.sessionConfig.replace proposed = .ok proposed ∧
      changed = { common with sessionConfig := proposed } := by
  obtain ⟨config, hreplace, hchanged⟩ := bind_eq_ok hset
  obtain rfl := SessionConfig.eq_of_replace hreplace
  cases hchanged
  exact ⟨hreplace, rfl⟩

/-! ## Fire and forget -/

namespace FireAndForgetProcessor

variable {env : FnfEnvironment} {p : FireAndForgetProcessor}

theorem OnlyTimers.config_eq {q : FireAndForgetProcessor} (hsame : OnlyTimers p q) :
    q.state.config = p.state.config := by
  rw [hsame]

/-- Only `SetConfig` changes the configuration. -/
theorem Transition.config_eq {event : FnfEvent} {result : FnfResult Unit}
    (htransition : Transition env p event result) (hevent : ∀ config, event ≠ .setConfig config) :
    (left result).state.config = p.state.config := by
  cases htransition with
  | configured config => exact absurd rfl (hevent config)
  | quiet quiet => rw [quiet.state]
  | answered htype frame handed => rw [frame.state]
  | exited => rfl
  | application htyped haddressed hbound called => exact called.onlyTimers.config_eq
  | buffered htyped hsearching hstatus quiet =>
      rw [left_ok, quiet.state]
      rfl
  | unprobed hsearching hstatus hclosed quiet =>
      rw [left_error, quiet.state]
      rfl
  | acknowledged htype hid hstored => rfl
  | discovered htype haccepts hsource hconnection hreply called =>
      exact called.onlyTimers.config_eq
  | established htype hstatus hsource hconnection flushed => exact flushed.onlyTimers.config_eq
  | unreported hstored hinfo => rfl
  | unheard hstored hinfo hclosed quiet =>
      rw [left_ok, quiet.state]
      rfl
  | reported hstored hinfo => rfl

/-- The configuration that a message of the channel leaves. -/
def configAfter (config : FireAndForgetConfiguration) : FnfEvent → FireAndForgetConfiguration
  | .setConfig changed => changed
  | _ => config

theorem config_step (env : FnfEnvironment) (hrunning : p.running = true) (event : FnfEvent) :
    (p.step env event).state.config = configAfter p.state.config event := by
  by_cases hevent : ∀ config, event ≠ .setConfig config
  · rcases step_cases env p event with ⟨hended, -⟩ | ⟨result, -, htransition, hsettle⟩
    · rw [hrunning] at hended
      cases hended
    · rw [hsettle, settle_state, htransition.config_eq hevent]
      cases event with
      | setConfig config => exact absurd rfl (hevent config)
      | _ => rfl
  · push Not at hevent
    obtain ⟨config, rfl⟩ := hevent
    rw [step, if_pos hrunning]
    rfl

theorem running_of_step {event : FnfEvent} (hrunning : (p.step env event).running = true) :
    p.running = true := by
  rcases step_cases env p event with ⟨-, hsame⟩ | ⟨result, hbefore, -, -⟩
  · rwa [hsame] at hrunning
  · exact hbefore

theorem running_exit (env : FnfEnvironment) (p : FireAndForgetProcessor) :
    (p.step env .exit).running = false := by
  rw [step]
  split
  next => rfl
  next hended => exact Bool.eq_false_iff.2 hended

end FireAndForgetProcessor

/-- The session with its task: `channel` holds what the task has not taken yet, `spawned` the
    configurations whose task has not sent them yet.  `updates` are the configurations of the
    calls of `set_session_config` that succeeded, `sent` those that were put into the channel,
    both in order. -/
structure FireAndForget where
  common : Common
  channel : List FnfEvent
  processor : FireAndForgetProcessor
  spawned : List FireAndForgetConfiguration
  updates : List FireAndForgetConfiguration
  sent : List FireAndForgetConfiguration

/-- What can happen to a session: a call, one of the spawned tasks that runs, a message or a
    timer event for the task of the session, a round of its loop, or its end. -/
inductive FireAndForgetEvent where
  | setSessionConfig (config : SessionConfig)
  | sendConfig (index : Nat)
  | onMessage (message : SessionMessage) (direction : MessageDirection)
  | timerTimeout (messageId : UInt32)
  | timerFailure (messageId : UInt32)
  | receive
  | cancel

namespace FireAndForget

def CHANNEL_CAPACITY : Nat := 32

def new (id : UInt32) (sessionConfig : FireAndForgetConfiguration)
    (sessionDirection : SessionDirection) (agent : Agent) (identity : Option String) :
    FireAndForget where
  common := Common.new id sessionDirection (.fireAndForget sessionConfig) agent identity
  channel := []
  processor := FireAndForgetProcessor.new id agent sessionConfig
  spawned := []
  updates := []
  sent := []

def sessionConfig (session : FireAndForget) : SessionConfig := session.common.sessionConfig

/-- A configuration of another kind is refused by the lock already. -/
def setSessionConfig (session : FireAndForget) (proposed : SessionConfig) :
    Except SessionError Unit × FireAndForget :=
  match session.common.setSessionConfig proposed with
  | .error e => (.error e, session)
  | .ok common =>
      match proposed with
      | .fireAndForget config => (.ok (), { session with
          common := common
          spawned := session.spawned ++ [config]
          updates := session.updates ++ [config] })
      | _ => (.error (.configurationError .invalidType), { session with common := common })

/-- The channel takes a message while its receiver is there; if it is full, the sender waits. -/
def accepts (session : FireAndForget) : Bool :=
  session.processor.running && decide (session.channel.length < CHANNEL_CAPACITY)

def post (session : FireAndForget) (message : FnfEvent) : FireAndForget :=
  if session.accepts then { session with channel := session.channel ++ [message] } else session

/-- A spawned task sends its configuration, and ends with an error if nobody listens. -/
def sendConfig (session : FireAndForget) (index : Nat) : FireAndForget :=
  match session.spawned[index]? with
  | none => session
  | some config =>
      if session.accepts then
        { session with
          channel := session.channel ++ [.setConfig config]
          spawned := session.spawned.eraseIdx index
          sent := session.sent ++ [config] }
      else if session.processor.running then session
      else { session with spawned := session.spawned.eraseIdx index }

def receive (env : FnfEnvironment) (session : FireAndForget) : FireAndForget :=
  match session.channel with
  | [] => session
  | message :: rest =>
      { session with channel := rest, processor := session.processor.step env message }

def step (env : FnfEnvironment) (session : FireAndForget) : FireAndForgetEvent → FireAndForget
  | .setSessionConfig config => (session.setSessionConfig config).2
  | .sendConfig index => session.sendConfig index
  | .onMessage message direction => session.post (.onMessage message direction)
  | .timerTimeout messageId => session.post (.timerTimeout messageId)
  | .timerFailure messageId => session.post (.timerFailure messageId)
  | .receive => session.receive env
  | .cancel => { session with processor := session.processor.step env .exit }

/-- The configuration that was added last, the first one if none was. -/
def latest (initial : FireAndForgetConfiguration) (configs : List FireAndForgetConfiguration) :
    FireAndForgetConfiguration :=
  configs.getLast?.getD initial

@[simp] theorem latest_concat (initial config : FireAndForgetConfiguration)
    (configs : List FireAndForgetConfiguration) :
    latest initial (configs ++ [config]) = config := by
  simp [latest]

/-- The lock has the configuration that was set last.  While the task runs, the one that was
    sent last is what it has or will have when the channel is empty, and every one that was set
    has been sent or has its task still. -/
structure Tracked (initial : FireAndForgetConfiguration) (session : FireAndForget) : Prop where
  reported : session.sessionConfig = .fireAndForget (latest initial session.updates)
  applied : session.processor.running = true →
    session.channel.foldl FireAndForgetProcessor.configAfter session.processor.state.config =
      latest initial session.sent
  perm : session.processor.running = true →
    List.Perm (session.sent ++ session.spawned) session.updates

section Tracking

variable {env : FnfEnvironment} {initial : FireAndForgetConfiguration} {session : FireAndForget}

theorem Tracked.setSessionConfig (hs : Tracked initial session) (proposed : SessionConfig) :
    Tracked initial (session.setSessionConfig proposed).2 := by
  unfold FireAndForget.setSessionConfig
  rcases hset : session.common.setSessionConfig proposed with e | common
  · exact hs
  obtain ⟨hreplace, rfl⟩ := Common.setSessionConfig_eq_ok hset
  have hkind := SessionConfig.sessionType_of_replace hreplace
  rw [show session.common.sessionConfig = _ from hs.reported] at hkind
  rcases proposed with config | config | config
  · refine ⟨?_, hs.applied, ?_⟩
    · rw [latest_concat]
      rfl
    · intro hrunning
      rw [← List.append_assoc]
      exact (hs.perm hrunning).append_right [config]
  · cases hkind
  · cases hkind

theorem Tracked.post (hs : Tracked initial session) {message : FnfEvent}
    (hmessage : ∀ config, message ≠ .setConfig config) :
    Tracked initial (session.post message) := by
  unfold FireAndForget.post
  split
  next =>
    refine ⟨hs.reported, ?_, hs.perm⟩
    intro hrunning
    rw [List.foldl_append, hs.applied hrunning]
    cases message with
    | setConfig config => exact absurd rfl (hmessage config)
    | _ => rfl
  next => exact hs

theorem Tracked.sendConfig (hs : Tracked initial session) (index : Nat) :
    Tracked initial (session.sendConfig index) := by
  unfold FireAndForget.sendConfig
  rcases hfound : session.spawned[index]? with _ | config
  · exact hs
  obtain ⟨hindex, rfl⟩ := List.getElem?_eq_some_iff.1 hfound
  dsimp only
  split
  next =>
    refine ⟨hs.reported, ?_, ?_⟩
    · intro hrunning
      rw [List.foldl_append, latest_concat]
      rfl
    · intro hrunning
      -- the configuration moves from one list to the other
      rw [List.append_assoc]
      exact ((List.getElem_cons_eraseIdx_perm hindex).append_left _).trans (hs.perm hrunning)
  next =>
    split
    next => exact hs
    next hended =>
      exact ⟨hs.reported, fun hrunning => absurd hrunning hended,
        fun hrunning => absurd hrunning hended⟩

theorem Tracked.receive (hs : Tracked initial session) : Tracked initial (session.receive env) := by
  unfold FireAndForget.receive
  rcases hchannel : session.channel with _ | ⟨message, rest⟩
  · exact hs
  refine ⟨hs.reported, ?_, ?_⟩
  · intro hrunning
    have hbefore := FireAndForgetProcessor.running_of_step hrunning
    have happlied := hs.applied hbefore
    rw [hchannel, List.foldl_cons] at happlied
    rw [FireAndForgetProcessor.config_step env hbefore]
    exact happlied
  · exact fun hrunning => hs.perm (FireAndForgetProcessor.running_of_step hrunning)

theorem Tracked.step (hs : Tracked initial session) (event : FireAndForgetEvent) :
    Tracked initial (session.step env event) := by
  cases event with
  | setSessionConfig config => exact hs.setSessionConfig config
  | sendConfig index => exact hs.sendConfig index
  | onMessage message direction => exact hs.post (by simp)
  | timerTimeout messageId => exact hs.post (by simp)
  | timerFailure messageId => exact hs.post (by simp)
  | receive => exact hs.receive
  | cancel =>
      have hended : (session.step env .cancel).processor.running ≠ true := by
        simp [FireAndForget.step, FireAndForgetProcessor.running_exit]
      exact ⟨hs.reported, fun hrunning => absurd hrunning hended,
        fun hrunning => absurd hrunning hended⟩

theorem tracked_run (env : FnfEnvironment) (id : UInt32) (config : FireAndForgetConfiguration)
    (direction : SessionDirection) (agent : Agent) (identity : Option String)
    (events : List FireAndForgetEvent) :
    Tracked config (run (step env) (new id config direction agent identity) events) := by
  refine run_invariant (P := fun _ _ => True) (fun _ event hs _ => hs.step event) events _
    (along_of_forall events _ fun _ _ => trivial) ?_
  exact ⟨rfl, fun _ => rfl, fun _ => .refl _⟩

end Tracking

/-- Every configuration that was set has reached the task. -/
def AllDelivered (session : FireAndForget) : Prop :=
  session.spawned = [] ∧ ∀ config, .setConfig config ∉ session.channel

theorem foldl_configAfter {channel : List FnfEvent}
    (hchannel : ∀ config, .setConfig config ∉ channel)
    (config : FireAndForgetConfiguration) :
    channel.foldl FireAndForgetProcessor.configAfter config = config := by
  induction channel with
  | nil => rfl
  | cons message rest ih =>
      have hmessage : FireAndForgetProcessor.configAfter config message = config := by
        cases message with
        | setConfig changed => exact absurd List.mem_cons_self (hchannel changed)
        | _ => rfl
      rw [List.foldl_cons, hmessage]
      exact ih fun changed hmem => hchannel changed (List.mem_cons_of_mem _ hmem)

/-- When every configuration has reached the task, each of them once, the task applies the one
    that was sent last and the session reports the one that was set last: the two agree exactly
    if these are the same. -/
theorem config_updates_converge_iff (env : FnfEnvironment) (id : UInt32)
    (config : FireAndForgetConfiguration) (direction : SessionDirection) (agent : Agent)
    (identity : Option String) (events : List FireAndForgetEvent)
    (hrunning : (run (step env) (new id config direction agent identity) events).processor.running =
      true)
    (hdelivered : (run (step env) (new id config direction agent identity) events).AllDelivered) :
    let session := run (step env) (new id config direction agent identity) events
    List.Perm session.sent session.updates ∧
      session.sessionConfig = .fireAndForget (latest config session.updates) ∧
      (session.sessionConfig = .fireAndForget session.processor.state.config ↔
        session.sent.getLast? = session.updates.getLast?) := by
  intro session
  have hs : Tracked config session := tracked_run env id config direction agent identity events
  have hperm : List.Perm session.sent session.updates := by
    have hperm := hs.perm hrunning
    rwa [show session.spawned = [] from hdelivered.1, List.append_nil] at hperm
  have happlied : session.processor.state.config = latest config session.sent := by
    rw [← hs.applied hrunning, foldl_configAfter hdelivered.2]
  refine ⟨hperm, hs.reported, ?_⟩
  rw [hs.reported, happlied, SessionConfig.fireAndForget.injEq]
  -- the two lists are empty together
  rcases List.eq_nil_or_concat session.updates with hnone | ⟨others, last, hlast⟩
  · rw [hnone] at hperm ⊢
    simp [hperm.eq_nil]
  · rcases List.eq_nil_or_concat session.sent with hnone | ⟨_, lastSent, hlastSent⟩
    · rw [hnone, hlast] at hperm
      simp at hperm
    · rw [hlast, hlastSent]
      simp [eq_comm]

/-- A session in which two changes are sent in the given order, and then taken by the task. -/
@[reducible] def twoUpdates (first second : Nat) : FireAndForget :=
  run (step (FireAndForgetProcessor.openEnvironment fun _ => 5))
    (new 10 .default .Bidirectional ⟨⟨1, 1, 2, none⟩, 3⟩ none)
    [.setSessionConfig (.fireAndForget ⟨some (Duration.fromMillis 100), some 3, false⟩),
      .setSessionConfig (.fireAndForget ⟨some (Duration.fromMillis 500), some 5, false⟩),
      .sendConfig first, .sendConfig second, .receive, .receive]

/-- The task of the second change runs first: the task of the session is left with the timeout
    of the first change. -/
theorem updates_overtaken :
    (twoUpdates 1 0).processor.running = true ∧ (twoUpdates 1 0).AllDelivered ∧
      (twoUpdates 1 0).sessionConfig =
        .fireAndForget ⟨some (Duration.fromMillis 500), some 5, false⟩ ∧
      (twoUpdates 1 0).processor.state.config =
        ⟨some (Duration.fromMillis 100), some 3, false⟩ := by
  refine ⟨rfl, ⟨rfl, ?_⟩, rfl, rfl⟩
  intro config hmem
  cases hmem

theorem config_updates_converge_sample :
    (twoUpdates 0 0).sessionConfig = .fireAndForget (twoUpdates 0 0).processor.state.config := by
  refine (config_updates_converge_iff (FireAndForgetProcessor.openEnvironment fun _ => 5) 10
    .default .Bidirectional ⟨⟨1, 1, 2, none⟩, 3⟩ none _ rfl ⟨rfl, ?_⟩).2.2.2 rfl
  intro config hmem
  cases hmem

end FireAndForget

/-! ## Streaming -/

/-- The receiving half of a session; `ctx` is what its task was started with. -/
structure Streaming where
  common : Common
  ctx : StreamContext
  receiver : ReceiverState

inductive StreamingEvent where
  | setSessionConfig (config : SessionConfig)
  | handle (event : ReceiverEvent)

/-- The timer has the timeout and the retries of the configuration. -/
def RtxTimer.Follows (timer : RtxTimer) : SessionConfig → Prop
  | .streaming config => timer.timeout = config.timeout ∧ timer.maxRetries = config.maxRetries
  | _ => False

/-- The message makes the receiver ask its producer for an id, and this is the timer that stands
    under the id afterwards. -/
def ReceiverState.StartsTimer (ctx : StreamContext) (state : ReceiverState) (timer : RtxTimer) :
    ReceiverEvent → Prop
  | .message msg => ∃ effects next producerName request msgId,
      state.processMessageFromSlim ctx msg = .ok (effects, next) ∧
        msg.getSource = .ok producerName ∧ request ∈ effects.toSlim ∧
        request.getMessageId = .ok msgId ∧
        (next.receiverFor producerName).timersMap.get? msgId = some timer
  | .timer _ _ _ => False

theorem ReceiverState.StartsTimer.eq {ctx : StreamContext} {state : ReceiverState}
    {timer : RtxTimer} {event : ReceiverEvent} (hstarts : state.StartsTimer ctx timer event) :
    timer = ⟨ctx.timeout, ctx.maxRetries, false⟩ := by
  cases event with
  | timer name msgId retry => exact hstarts.elim
  | message msg =>
      obtain ⟨effects, next, name, request, msgId, hrun, hsource, hrequest, hid, htimer⟩ := hstarts
      cases transition_message hrun with
      | quiet _ hslim => simp [hslim] at hrequest
      | @called _ _ caller conn _ _ _ _ rtx _ hcalls hhandle hslim =>
          rw [hslim] at hrequest
          obtain ⟨asked, hasked, rfl⟩ := List.mem_map.1 hrequest
          cases hid
          have hname : caller = name := by
            have hproducer := hcalls.producer_eq
            simpa [ReceiverEvent.producer, hsource, Except.toOption] using hproducer.symm
          subst hname
          rw [receiverFor_put_same state rfl, afterCall, Receiver.get?_foldl_track,
            if_pos hasked] at htimer
          exact (Option.some.inj htimer).symm

namespace Streaming

def new (build : Build) (id : UInt32) (sessionConfig : StreamingConfiguration)
    (sessionDirection : SessionDirection) (agent : Agent) (identity : Option String) :
    Streaming where
  common := Common.new id sessionDirection (.streaming sessionConfig) agent identity
  ctx := ⟨build, id, agent, sessionConfig.maxRetries, sessionConfig.timeout⟩
  receiver := ReceiverState.new

def sessionConfig (session : Streaming) : SessionConfig := session.common.sessionConfig

def setSessionConfig (session : Streaming) (proposed : SessionConfig) :
    Except SessionError Unit × Streaming :=
  match session.common.setSessionConfig proposed with
  | .error e => (.error e, session)
  | .ok common => (.ok (), { session with common := common })

def step (session : Streaming) : StreamingEvent → Streaming
  | .setSessionConfig config => (session.setSessionConfig config).2
  | .handle event => { session with receiver := session.receiver.step session.ctx event }

theorem ctx_step (session : Streaming) (event : StreamingEvent) :
    (session.step event).ctx = session.ctx := by
  cases event with
  | handle event => rfl
  | setSessionConfig config =>
      rw [step, setSessionConfig]
      split <;> rfl

theorem ctx_run (session : Streaming) (events : List StreamingEvent) :
    (run step session events).ctx = session.ctx := by
  refine run_invariant (I := fun later => later.ctx = session.ctx) (P := fun _ _ => True) ?_ events
    session (along_of_forall events _ fun _ _ => trivial) rfl
  intro later event hctx _
  rw [ctx_step, hctx]

/-- The event starts the timer of a retransmission. -/
def StartsTimer (session : Streaming) (timer : RtxTimer) : StreamingEvent → Prop
  | .handle event => session.receiver.StartsTimer session.ctx timer event
  | .setSessionConfig _ => False

/-- Whatever configuration is set, a timer is started with the one of the creation. -/
theorem StartsTimer.eq {build : Build} {id : UInt32} {config : StreamingConfiguration}
    {direction : SessionDirection} {agent : Agent} {identity : Option String}
    {done : List StreamingEvent} {event : StreamingEvent} {timer : RtxTimer}
    (hstarts : (run step (new build id config direction agent identity) done).StartsTimer timer
      event) : timer = ⟨config.timeout, config.maxRetries, false⟩ := by
  cases event with
  | setSessionConfig proposed => exact hstarts.elim
  | handle event =>
      have htimer := ReceiverState.StartsTimer.eq hstarts
      rwa [ctx_run] at htimer

/-- Every timer follows the configuration that the session reports when it is started, exactly if
    whenever one is started the session reports the timeout and the retries that it was created
    with. -/
theorem timers_follow_config_iff (build : Build) (id : UInt32) (config : StreamingConfiguration)
    (direction : SessionDirection) (agent : Agent) (identity : Option String)
    (events : List StreamingEvent) :
    let after := run step (new build id config direction agent identity)
    (∀ done event, done ++ [event] <+: events → ∀ timer, (after done).StartsTimer timer event →
        timer.Follows (after done).sessionConfig) ↔
      ∀ done event, done ++ [event] <+: events → (∃ timer, (after done).StartsTimer timer event) →
        ∃ current, (after done).sessionConfig = .streaming current ∧
          current.timeout = config.timeout ∧ current.maxRetries = config.maxRetries := by
  intro after
  constructor
  · rintro hall done event hprefix ⟨timer, hstarts⟩
    have hfollows := hall done event hprefix timer hstarts
    obtain rfl := hstarts.eq
    rcases hconfig : (after done).sessionConfig with current | current | current
    · simp [hconfig, RtxTimer.Follows] at hfollows
    · simp [hconfig, RtxTimer.Follows] at hfollows
    · rw [hconfig] at hfollows
      exact ⟨current, rfl, hfollows.1.symm, hfollows.2.symm⟩
  · intro hall done event hprefix timer hstarts
    obtain ⟨current, hconfig, htimeout, hretries⟩ := hall done event hprefix ⟨timer, hstarts⟩
    obtain rfl := hstarts.eq
    rw [hconfig]
    exact ⟨htimeout.symm, hretries.symm⟩

/-- The timeout is set to five seconds, then the message with id 2 is missed: its timer has the
    second of the default configuration. -/
theorem old_timeout_applied :
    let session := run step
      (new .release 1 .default .Receiver ⟨⟨1, 1, 2, none⟩, 8⟩ none)
      [.setSessionConfig (.streaming { StreamingConfiguration.default with
          timeout := Duration.fromMillis 5000 }),
        .handle (.message (ReceiverState.sampleStreamed .stream 1))]
    session.sessionConfig = .streaming { StreamingConfiguration.default with
        timeout := Duration.fromMillis 5000 } ∧
      session.StartsTimer ⟨Duration.fromMillis 1000, 10, false⟩
        (.handle (.message (ReceiverState.sampleStreamed .stream 3))) ∧
      ¬ (⟨Duration.fromMillis 1000, 10, false⟩ : RtxTimer).Follows session.sessionConfig := by
  intro session
  refine ⟨rfl, ⟨_, _, _, _, 2, rfl, rfl, List.mem_cons_self, rfl, rfl⟩, ?_⟩
  intro hfollows
  exact absurd hfollows.1 (by decide)

end Streaming

end Slim
