import Slim.SessionLayer
import Slim.Runs

/-!
# Inbound messages among other calls: `handle_message_from_slim`

A message from the network is handed to its session.  If there is no session with the
id of the message, one is created and looked up again.  The lock on the pool is taken
anew for each lookup and for the creation, and the default configuration has a lock of
its own, so that other calls may come in between.  Each time a lock is held is one step.
-/

namespace Slim

open HashKey Machine

/-! ## The steps of a task -/

/-- Where a task that handles a message can stop. -/
inductive InboundPanic where
  | access (panic : AccessPanic)
  | sessionExists
  | assertionFailed -- `debug_assert!(new_session_id.id == id)`
  | sessionNotFound
deriving DecidableEq, Repr

/-- A task that handles a message.  `configure` is the task that has found no session;
    `create` has read the default configuration, and `retry` has created the session. -/
inductive InboundState where
  | idle
  | lookup (message : ProtoMessage) (id : UInt32) (headerType : SessionHeaderType)
  | configure (message : ProtoMessage) (id : UInt32) (headerType : SessionHeaderType)
  | create (message : ProtoMessage) (id : UInt32) (headerType : SessionHeaderType)
      (config : SessionConfig)
  | retry (message : ProtoMessage) (id : UInt32)
  | handed (message : ProtoMessage) (session : Common) (received : ProtoMessage)
  | answered (error : SessionError)
  | panicked (panic : InboundPanic)

/-- The kind of session that a message of this header type creates. -/
def SessionHeaderType.implicitType : SessionHeaderType → Option SessionType
  | fnf => some .FireAndForget
  | fnfReliable => some .FireAndForget
  | fnfDiscovery => some .FireAndForget
  | request => some .RequestResponse
  | stream => some .Streaming
  | beaconStream => some .Streaming
  | _ => none

/-- The default configuration for a message of this header type. -/
def SessionLayer.implicitConfig (layer : SessionLayer) (headerType : SessionHeaderType) :
    Except SessionError SessionConfig :=
  match headerType.implicitType with
  | some .FireAndForget => .ok (.fireAndForget layer.defaultFfConf)
  | some .RequestResponse => .ok (.requestResponse layer.defaultRrConf)
  | some .Streaming => .ok (.streaming layer.defaultStreamConf)
  | none => .error (.sessionUnknown headerType.asStrName)

namespace InboundState

/-- The steps that a task has still to take at most. -/
def remaining : InboundState → Nat
  | lookup _ _ _ => 4
  | configure _ _ _ => 3
  | create _ _ _ _ => 2
  | retry _ _ => 1
  | _ => 0

/-- The message that a task is handling or has handed over. -/
def message? : InboundState → Option ProtoMessage
  | lookup message _ _ => some message
  | configure message _ _ => some message
  | create message _ _ _ => some message
  | retry message _ => some message
  | handed message _ _ => some message
  | _ => none

/-- The start of `handle_message` and of `handle_message_from_slim`, before the pool is
    looked at. -/
def start (message : ProtoMessage) : InboundState :=
  match message.validate with
  | .error e => answered (.validationError e.display)
  | .ok () =>
      match message.isPublish with
      | .error panic => panicked (.access panic)
      | .ok false => answered (.validationError "message is not a publish")
      | .ok true =>
          match message.getSessionHeader with
          | .error panic => panicked (.access panic)
          | .ok header =>
              match SessionHeaderType.tryFrom header.headerType with
              | none => answered (.validationError ("session type is not valid: " ++
                  "unknown enumeration value " ++ toString header.headerType))
              | some headerType => lookup message header.sessionId headerType

/-- The message goes through the interceptors of the session and then to the session. -/
def hand (message : ProtoMessage) (session : Common) : InboundState :=
  match session.onMessageFromSlimInterceptors message with
  | .error e => answered e
  | .ok received => handed message session received

/-- The next step of a task.  No id is drawn for a session that is created here. -/
def resume [NameHash] (build : Build) (layer : SessionLayer) :
    InboundState → InboundState × SessionLayer
  | lookup message id headerType =>
      match layer.pool.get? id with
      | some session => (hand message session, layer)
      | none => (configure message id headerType, layer)
  | configure message id headerType =>
      match layer.implicitConfig headerType with
      | .error e => (answered e, layer)
      | .ok config => (create message id headerType config, layer)
  | create message id headerType config =>
      match layer.createSession config (some id) [] with
      | (.created info, left) =>
          if build = .debug ∧ info.id ≠ id then (panicked .assertionFailed, left)
          else (retry message info.id, left)
      | (.refused e, left) => (answered e, left)
      | (.panicked, left) => (panicked .sessionExists, left)
      | (.drawing, left) => (create message id headerType config, left)
  | retry message id =>
      match layer.pool.get? id with
      | some session => (hand message session, layer)
      | none => (panicked .sessionNotFound, layer)
  | state => (state, layer)

end InboundState

structure Dispatcher where
  layer : SessionLayer
  tasks : Nat → InboundState

/-- The calls of other tasks take the lock once. -/
inductive DispatcherEvent where
  | receive (i : Nat) (message : ProtoMessage)
  | advance (i : Nat)
  | createSession (config : SessionConfig) (id : Option UInt32) (draws : List UInt32)
  | removeSession (id : UInt32)
  | setSessionConfig (config : SessionConfig) (sessionId : Option UInt32)
  | addSessionInterceptor (id : UInt32) (interceptor : SessionInterceptor)

namespace Dispatcher

def new (agentName : Agent) (identity : Option String) : Dispatcher :=
  ⟨SessionLayer.new agentName identity, fun _ => .idle⟩

def step [NameHash] (build : Build) (s : Dispatcher) : DispatcherEvent → Dispatcher
  | .receive i message =>
      -- a task that is busy takes no other message
      if (s.tasks i).remaining = 0 then
        { s with tasks := Function.update s.tasks i (.start message) }
      else s
  | .advance i =>
      let (state, layer) := (s.tasks i).resume build s.layer
      { layer := layer, tasks := Function.update s.tasks i state }
  | .createSession config id draws => { s with layer := (s.layer.createSession config id draws).2 }
  | .removeSession id => { s with layer := (s.layer.removeSession id).2 }
  | .setSessionConfig config sessionId =>
      { s with layer := (s.layer.setSessionConfig config sessionId).2 }
  | .addSessionInterceptor id interceptor =>
      { s with layer := (s.layer.addSessionInterceptor id interceptor).2 }

end Dispatcher

/-! ## What a task knows -/

namespace InboundState

/-- The header of the message has this id and this type. -/
def Headed (message : ProtoMessage) (id : UInt32) (headerType : SessionHeaderType) : Prop :=
  ∃ header, message.getSessionHeader = .ok header ∧ header.sessionId = id ∧
    SessionHeaderType.tryFrom header.headerType = some headerType

/-- A task carries the id and the type of its message, and a configuration of the right
    kind that leaves the id as it is.  The only panic it may meet is that of the second
    lookup. -/
def Sound : InboundState → Prop
  | lookup message id headerType => Headed message id headerType
  | configure message id headerType => Headed message id headerType
  | create message id headerType config => Headed message id headerType ∧
      headerType.implicitType = some config.sessionType ∧ config.sharedTopic = none
  | retry message id => ∃ headerType, Headed message id headerType
  | panicked panic => panic = .sessionNotFound
  | _ => True

/-- A message is answered with an error at once, or goes on to be looked up under the id
    in its header. -/
theorem start_cases (message : ProtoMessage) :
    (∃ error, start message = answered error) ∨
      ∃ id headerType, start message = lookup message id headerType ∧
        Headed message id headerType := by
  unfold start
  rcases hvalid : message.validate with e | ⟨⟩
  · exact Or.inl ⟨_, rfl⟩
  obtain ⟨header, source, destination, hheader, -, -, hsession⟩ :=
    ProtoMessage.validate_ok_iff.1 hvalid
  rcases htype : message.messageType with _ | ⟨publish⟩ | ⟨subscribe⟩ | ⟨unsubscribe⟩
  · simp only [ProtoMessage.tryGetSlimHeader, htype] at hheader
    cases hheader
  · obtain ⟨session, hsome⟩ := Option.ne_none_iff_exists'.mp (hsession publish htype)
    have hget : message.getSessionHeader = .ok session := by
      simp only [ProtoMessage.getSessionHeader, htype, hsome, orPanic_some]
    simp only [ProtoMessage.isPublish, ProtoMessage.getType, htype, orPanic_some, bind_ok, hget]
    rcases hknown : SessionHeaderType.tryFrom session.headerType with _ | headerType
    · exact Or.inl ⟨_, rfl⟩
    · exact Or.inr ⟨_, headerType, rfl, session, hget, rfl, hknown⟩
  · simp only [ProtoMessage.isPublish, ProtoMessage.getType, htype, orPanic_some, bind_ok]
    exact Or.inl ⟨_, rfl⟩
  · simp only [ProtoMessage.isPublish, ProtoMessage.getType, htype, orPanic_some, bind_ok]
    exact Or.inl ⟨_, rfl⟩

theorem sound_start (message : ProtoMessage) : (start message).Sound := by
  rcases start_cases message with ⟨error, hstart⟩ | ⟨id, headerType, hstart, hheaded⟩
  · rw [hstart]
    trivial
  · rw [hstart]
    exact hheaded

theorem sound_hand (message : ProtoMessage) (session : Common) : (hand message session).Sound := by
  unfold hand
  rcases session.onMessageFromSlimInterceptors message with e | received
  · trivial
  · trivial

/-- The default configuration is of the kind that the header type selects, and leaves the
    id as it is. -/
theorem implicitConfig_ok {layer : SessionLayer} {headerType : SessionHeaderType}
    {config : SessionConfig} (hreceiver : layer.defaultStreamConf.direction = .Receiver)
    (hconfig : layer.implicitConfig headerType = .ok config) :
    headerType.implicitType = some config.sessionType ∧ config.sharedTopic = none := by
  unfold SessionLayer.implicitConfig at hconfig
  rcases htype : headerType.implicitType with _ | _ | _ | _
  all_goals
    rw [htype] at hconfig
    cases hconfig
  · exact ⟨rfl, rfl⟩
  · exact ⟨rfl, rfl⟩
  · refine ⟨rfl, if_neg ?_⟩
    rw [hreceiver]
    decide

section Resume

variable [NameHash]

/-- A session that is created for a message gets the id of the message. -/
theorem createSession_given (layer : SessionLayer) {config : SessionConfig}
    (hown : config.sharedTopic = none) (id : UInt32) :
    (∃ error, layer.createSession config (some id) [] = (.refused error, layer)) ∨
      ∃ session, layer.createSession config (some id) [] = (.created (Info.new id),
          { layer with pool := layer.pool.insert id session }) ∧
        session.sessionConfig = config := by
  rcases layer.chooseId_some id [] with ⟨error, hrefused, -⟩ | ⟨hchosen, -, hunused⟩
  · exact Or.inl ⟨error, SessionLayer.createSession_of_refused hrefused⟩
  · have hid : (layer.buildSession config id).id = id := by
      rw [SessionLayer.id_buildSession, hown]
      rfl
    have hfree := (HashMap.contains_eq_false_iff _ _).1 hunused
    refine Or.inr ⟨layer.buildSession config id, ?_, layer.config_buildSession config id⟩
    rw [SessionLayer.createSession_of_chosen hchosen, hid, hfree]
    rfl

/-- What one step of a task can do. -/
inductive Resumed (layer : SessionLayer) : InboundState → InboundState → SessionLayer → Prop
  | found {message : ProtoMessage} {id : UInt32} {headerType : SessionHeaderType}
      {session : Common} (hheaded : Headed message id headerType)
      (hsession : layer.pool.get? id = some session) :
      Resumed layer (lookup message id headerType) (hand message session) layer
  | missing {message : ProtoMessage} {id : UInt32} {headerType : SessionHeaderType}
      (hheaded : Headed message id headerType) :
      Resumed layer (lookup message id headerType) (configure message id headerType) layer
  | unknown {message : ProtoMessage} {id : UInt32} {headerType : SessionHeaderType}
      {error : SessionError} :
      Resumed layer (configure message id headerType) (answered error) layer
  | configured {message : ProtoMessage} {id : UInt32} {headerType : SessionHeaderType}
      {config : SessionConfig} (hheaded : Headed message id headerType)
      (hkind : headerType.implicitType = some config.sessionType)
      (hown : config.sharedTopic = none) :
      Resumed layer (configure message id headerType) (create message id headerType config) layer
  | refused {message : ProtoMessage} {id : UInt32} {headerType : SessionHeaderType}
      {config : SessionConfig} {error : SessionError} :
      Resumed layer (create message id headerType config) (answered error) layer
  | created {message : ProtoMessage} {id : UInt32} {headerType : SessionHeaderType}
      {config : SessionConfig} {session : Common} (hheaded : Headed message id headerType) :
      Resumed layer (create message id headerType config) (retry message id)
        { layer with pool := layer.pool.insert id session }
  | foundAgain {message : ProtoMessage} {id : UInt32} {headerType : SessionHeaderType}
      {session : Common} (hheaded : Headed message id headerType)
      (hsession : layer.pool.get? id = some session) :
      Resumed layer (retry message id) (hand message session) layer
  | lost {message : ProtoMessage} {id : UInt32} (hgone : layer.pool.get? id = none) :
      Resumed layer (retry message id) (panicked .sessionNotFound) layer
  | finished {state : InboundState} (hfinished : state.remaining = 0) :
      Resumed layer state state layer

theorem resumed_of_sound (build : Build) {layer : SessionLayer} {state : InboundState}
    (hreceiver : layer.defaultStreamConf.direction = .Receiver) (hsound : state.Sound) :
    Resumed layer state (state.resume build layer).1 (state.resume build layer).2 := by
  cases state with
  | lookup message id headerType =>
      simp only [resume]
      rcases hget : layer.pool.get? id with _ | session
      · exact .missing hsound
      · exact .found hsound hget
  | configure message id headerType =>
      simp only [resume]
      rcases hconfig : layer.implicitConfig headerType with e | config
      · exact .unknown
      · obtain ⟨hkind, hown⟩ := implicitConfig_ok hreceiver hconfig
        exact .configured hsound hkind hown
  | create message id headerType config =>
      obtain ⟨hheaded, -, hown⟩ := hsound
      simp only [resume]
      rcases createSession_given layer hown id with ⟨error, hrefused⟩ |
        ⟨session, hcreated, -⟩
      · simp only [hrefused]
        exact .refused
      · -- the assertion holds: the session has the id of the message
        have hassert : ¬ (build = .debug ∧ (Info.new id).id ≠ id) := fun h => h.2 rfl
        simp only [hcreated, if_neg hassert]
        exact .created hheaded
  | retry message id =>
      obtain ⟨headerType, hheaded⟩ := hsound
      simp only [resume]
      rcases hget : layer.pool.get? id with _ | session
      · exact .lost hget
      · exact .foundAgain hheaded hget
  | idle => exact .finished rfl
  | handed message session received => exact .finished rfl
  | answered error => exact .finished rfl
  | panicked panic => exact .finished rfl

end Resume

section Resumed

variable {layer left : SessionLayer} {state next : InboundState}

theorem Resumed.sound (hstep : Resumed layer state next left) (hsound : state.Sound) :
    next.Sound := by
  cases hstep with
  | found hheaded hsession => exact sound_hand _ _
  | missing hheaded => exact hheaded
  | unknown => trivial
  | configured hheaded hkind hown => exact ⟨hheaded, hkind, hown⟩
  | refused => trivial
  | created hheaded => exact ⟨_, hheaded⟩
  | foundAgain hheaded hsession => exact sound_hand _ _
  | lost hgone => rfl
  | finished hfinished => exact hsound

theorem remaining_hand (message : ProtoMessage) (session : Common) :
    (hand message session).remaining = 0 := by
  unfold hand
  rcases session.onMessageFromSlimInterceptors message with e | received
  · rfl
  · rfl

theorem Resumed.remaining_lt (hstep : Resumed layer state next left)
    (hbusy : state.remaining ≠ 0) : next.remaining < state.remaining := by
  cases hstep with
  | found hheaded hsession =>
      rw [remaining_hand]
      exact Nat.pos_of_ne_zero hbusy
  | foundAgain hheaded hsession =>
      rw [remaining_hand]
      exact Nat.pos_of_ne_zero hbusy
  | finished hfinished => exact absurd hfinished hbusy
  | missing hheaded => exact Nat.lt_succ_self _
  | unknown => exact Nat.zero_lt_succ _
  | configured hheaded hkind hown => exact Nat.lt_succ_self _
  | refused => exact Nat.zero_lt_succ _
  | created hheaded => exact Nat.lt_succ_self _
  | lost hgone => exact Nat.zero_lt_succ _

/-- A task leaves the default configuration alone. -/
theorem Resumed.defaultStreamConf (hstep : Resumed layer state next left) :
    left.defaultStreamConf = layer.defaultStreamConf := by
  cases hstep <;> rfl

/-- A task only adds to the pool. -/
theorem Resumed.contains (hstep : Resumed layer state next left) {id : UInt32}
    (hin : layer.pool.contains id = true) : left.pool.contains id = true := by
  cases hstep with
  | created hheaded => rw [HashMap.contains_insert, hin, Bool.or_true]
  | _ => exact hin

/-- No task has panicked, and the pool has the session that a task is to look up again. -/
def Safe (layer : SessionLayer) : InboundState → Prop
  | retry _ id => layer.pool.contains id = true
  | panicked _ => False
  | _ => True

theorem safe_start (layer : SessionLayer) (message : ProtoMessage) :
    (start message).Safe layer := by
  rcases start_cases message with ⟨error, hstart⟩ | ⟨id, headerType, hstart, -⟩
  · rw [hstart]
    trivial
  · rw [hstart]
    trivial

theorem safe_hand (layer : SessionLayer) (message : ProtoMessage) (session : Common) :
    (hand message session).Safe layer := by
  unfold hand
  rcases session.onMessageFromSlimInterceptors message with e | received
  · trivial
  · trivial

/-- A layer that has kept the session of the task. -/
theorem Safe.of_keeps (hsafe : state.Safe layer)
    (hkeeps : ∀ message id, state = retry message id → layer.pool.contains id = true →
      left.pool.contains id = true) : state.Safe left := by
  cases state with
  | retry message id => exact hkeeps message id rfl hsafe
  | panicked panic => exact hsafe
  | _ => trivial

theorem Resumed.safe (hstep : Resumed layer state next left) (hsafe : state.Safe layer) :
    next.Safe left := by
  cases hstep with
  | found hheaded hsession => exact safe_hand _ _ _
  | foundAgain hheaded hsession => exact safe_hand _ _ _
  | @created message id headerType config session hheaded =>
      have hnew : (layer.pool.insert id session).contains id = true := by
        rw [HashMap.contains_insert, decide_eq_true rfl, Bool.true_or]
      exact hnew
  | lost hgone =>
      have hthere : _ = true := hsafe
      rw [HashMap.contains, hgone] at hthere
      cases hthere
  | finished hfinished => exact hsafe
  | missing hheaded => trivial
  | unknown => trivial
  | configured hheaded hkind hown => trivial
  | refused => trivial

/-- The task is still at work on the message. -/
def Busy (state : InboundState) (message : ProtoMessage) : Prop :=
  state.remaining ≠ 0 ∧ state.message? = some message

/-- The message was handed to the session that the pool has under the id in its header, or it
    was answered with an error. -/
inductive Dispatched (layer : SessionLayer) (message : ProtoMessage) : InboundState → Prop
  | handed {header : SessionHeader} {session : Common} {received : ProtoMessage}
      (hheader : message.getSessionHeader = .ok header)
      (hsession : layer.pool.get? header.sessionId = some session)
      (hreceived : session.onMessageFromSlimInterceptors message = .ok received) :
      Dispatched layer message (handed message session received)
  | answered (error : SessionError) : Dispatched layer message (answered error)

theorem dispatched_hand {message : ProtoMessage} {id : UInt32} {headerType : SessionHeaderType}
    {session : Common} (hheaded : Headed message id headerType)
    (hsession : layer.pool.get? id = some session) :
    Dispatched layer message (hand message session) := by
  obtain ⟨header, hheader, rfl, -⟩ := hheaded
  unfold hand
  rcases hreceived : session.onMessageFromSlimInterceptors message with e | received
  · exact .answered e
  · exact .handed hheader hsession hreceived

/-- A step of a busy task leaves it busy with its message, or dispatches the message. -/
theorem Resumed.busy_or_dispatched (hstep : Resumed layer state next left)
    (hsafe : state.Safe layer) {message : ProtoMessage} (hbusy : state.Busy message) :
    next.Busy message ∨ Dispatched layer message next := by
  obtain ⟨hremains, hmessage⟩ := hbusy
  cases hstep with
  | found hheaded hsession | foundAgain hheaded hsession =>
      obtain rfl := Option.some.inj hmessage
      exact .inr (dispatched_hand hheaded hsession)
  | missing | configured | created => exact .inl ⟨by simp [remaining], hmessage⟩
  | unknown | refused => exact .inr (.answered _)
  | lost hgone =>
      have hthere : _ = true := hsafe
      rw [HashMap.contains, hgone] at hthere
      cases hthere
  | finished hfinished => exact absurd hfinished hremains

end Resumed

end InboundState

/-! ## What the other calls leave alone -/

namespace SessionLayer

theorem defaultStreamConf_createSession [NameHash] (layer : SessionLayer)
    (config : SessionConfig) (id : Option UInt32) (draws : List UInt32) :
    (layer.createSession config id draws).2.defaultStreamConf = layer.defaultStreamConf := by
  rcases hchosen : layer.chooseId id draws with result | chosen
  · rw [createSession_of_refused hchosen]
  · rw [createSession_of_chosen hchosen]

theorem contains_createSession [NameHash] {layer : SessionLayer} {other : UInt32}
    (hin : layer.pool.contains other = true) (config : SessionConfig) (id : Option UInt32)
    (draws : List UInt32) :
    (layer.createSession config id draws).2.pool.contains other = true := by
  rcases hchosen : layer.chooseId id draws with result | chosen
  · rw [createSession_of_refused hchosen]
    exact hin
  · rw [createSession_of_chosen hchosen, HashMap.contains_insert, hin, Bool.or_true]

/-- No call changes the direction of the default streaming configuration. -/
theorem direction_setSessionConfig (layer : SessionLayer) (config : SessionConfig)
    (sessionId : Option UInt32) :
    (layer.setSessionConfig config sessionId).2.defaultStreamConf.direction =
      layer.defaultStreamConf.direction := by
  cases sessionId with
  | none =>
      cases config with
      | fireAndForget conf => rfl
      | requestResponse conf => rfl
      | streaming conf =>
          simp only [setSessionConfig]
          rcases hreplace : layer.defaultStreamConf.replace (.streaming conf) with e | replaced
          · rfl
          · exact (StreamingConfiguration.replace_eq_ok hreplace).2
  | some id =>
      simp only [setSessionConfig]
      rcases layer.pool.get? id with _ | session
      · rfl
      · simp only []
        rcases session.setSessionConfig config with e | changed
        · rfl
        · rfl

theorem contains_setSessionConfig {layer : SessionLayer} {other : UInt32}
    (hin : layer.pool.contains other = true) (config : SessionConfig)
    (sessionId : Option UInt32) :
    (layer.setSessionConfig config sessionId).2.pool.contains other = true := by
  cases sessionId with
  | none =>
      cases config with
      | fireAndForget conf => exact hin
      | requestResponse conf => exact hin
      | streaming conf =>
          simp only [setSessionConfig]
          rcases layer.defaultStreamConf.replace (.streaming conf) with e | replaced
          · exact hin
          · exact hin
  | some id =>
      simp only [setSessionConfig]
      rcases layer.pool.get? id with _ | session
      · exact hin
      · simp only []
        rcases session.setSessionConfig config with e | changed
        · exact hin
        · simp only [HashMap.contains_insert, hin, Bool.or_true]

theorem addSessionInterceptor_keeps (layer : SessionLayer) (id : UInt32)
    (interceptor : SessionInterceptor) :
    (layer.addSessionInterceptor id interceptor).2.defaultStreamConf = layer.defaultStreamConf ∧
      ∀ other, layer.pool.contains other = true →
        (layer.addSessionInterceptor id interceptor).2.pool.contains other = true := by
  unfold addSessionInterceptor
  rcases layer.pool.get? id with _ | session
  · exact ⟨rfl, fun _ hin => hin⟩
  · refine ⟨rfl, fun other hin => ?_⟩
    simp only [HashMap.contains_insert, hin, Bool.or_true]

end SessionLayer

/-! ## Runs -/

namespace Dispatcher

open InboundState

/-- The direction of the default streaming configuration is as at the start, and every
    task knows what it should. -/
structure Tracked (s : Dispatcher) : Prop where
  receiver : s.layer.defaultStreamConf.direction = .Receiver
  sound : ∀ i, (s.tasks i).Sound

theorem tracked_new (agentName : Agent) (identity : Option String) :
    (new agentName identity).Tracked where
  receiver := rfl
  sound := fun _ => trivial

/-- A property of all tasks after one of them has moved. -/
theorem forall_update {P : InboundState → Prop} {tasks : Nat → InboundState} {i : Nat}
    {state : InboundState} (hstate : P state) (hothers : ∀ j, P (tasks j)) (j : Nat) :
    P (Function.update tasks i state j) := by
  rw [Function.update_apply]
  split
  · exact hstate
  · exact hothers j

section Steps

variable [NameHash] {build : Build} {s : Dispatcher}

theorem Tracked.step (hs : s.Tracked) (event : DispatcherEvent) : (s.step build event).Tracked := by
  cases event with
  | receive i message =>
      simp only [Dispatcher.step]
      split
      · exact ⟨hs.receiver, forall_update (sound_start message) hs.sound⟩
      · exact hs
  | advance i =>
      have hstep := resumed_of_sound build hs.receiver (hs.sound i)
      refine ⟨?_, forall_update (hstep.sound (hs.sound i)) hs.sound⟩
      simp only [Dispatcher.step, hstep.defaultStreamConf]
      exact hs.receiver
  | createSession config id draws =>
      refine ⟨?_, hs.sound⟩
      simp only [Dispatcher.step, SessionLayer.defaultStreamConf_createSession]
      exact hs.receiver
  | removeSession id => exact ⟨hs.receiver, hs.sound⟩
  | setSessionConfig config sessionId =>
      refine ⟨?_, hs.sound⟩
      simp only [Dispatcher.step, SessionLayer.direction_setSessionConfig]
      exact hs.receiver
  | addSessionInterceptor id interceptor =>
      refine ⟨?_, hs.sound⟩
      simp only [Dispatcher.step, (s.layer.addSessionInterceptor_keeps id interceptor).1]
      exact hs.receiver

theorem tracked_run (build : Build) (agentName : Agent) (identity : Option String)
    (events : List DispatcherEvent) :
    (Runs.run (step build) (new agentName identity) events).Tracked :=
  Runs.run_invariant (P := fun _ _ => True) (fun _ event hs _ => hs.step event) events _
    (Runs.along_of_forall events _ fun _ _ => trivial) (tracked_new agentName identity)

/-- In every run from a new session layer, the default streaming configuration keeps its
    direction; a session that is created for a message gets the id in the header of the
    message and is of the kind that the header type selects; and the assertion on the id
    does not fail. -/
theorem implicit_session_keeps_id (build : Build) (agentName : Agent) (identity : Option String)
    (events : List DispatcherEvent) :
    let s := Runs.run (step build) (new agentName identity) events
    s.layer.defaultStreamConf.direction = .Receiver ∧
      (∀ i message id headerType config info left,
        s.tasks i = .create message id headerType config →
        s.layer.createSession config (some id) [] = (.created info, left) →
        info.id = id ∧ Headed message id headerType ∧
          ∃ session, left.pool.get? id = some session ∧
            headerType.implicitType = some session.sessionConfig.sessionType) ∧
      ∀ i, s.tasks i ≠ .panicked .assertionFailed := by
  intro s
  have hs : s.Tracked := tracked_run build agentName identity events
  refine ⟨hs.receiver, ?_, ?_⟩
  · intro i message id headerType config info left htask hcreated
    have hsound := hs.sound i
    rw [htask] at hsound
    obtain ⟨hheaded, hkind, hown⟩ := hsound
    rcases createSession_given s.layer hown id with ⟨error, hrefused⟩ | ⟨session, hsession, hconf⟩
    · rw [hrefused] at hcreated
      cases hcreated
    · rw [hsession] at hcreated
      cases hcreated
      refine ⟨rfl, hheaded, session, HashMap.get?_insert_self _ _ _, ?_⟩
      rw [hconf]
      exact hkind
  · intro i hpanicked
    have hsound := hs.sound i
    rw [hpanicked] at hsound
    cases hsound

end Steps

/-! ## Dispatch while sessions are removed -/

/-- The condition on a step: a session is not removed while a task that has created it
    has still to look it up again. -/
def Admits (s : Dispatcher) : DispatcherEvent → Prop
  | .removeSession id => ∀ i message, s.tasks i ≠ .retry message id
  | _ => True

structure Attended (s : Dispatcher) : Prop extends Tracked s where
  safe : ∀ i, (s.tasks i).Safe s.layer

theorem attended_new (agentName : Agent) (identity : Option String) :
    (new agentName identity).Attended where
  toTracked := tracked_new agentName identity
  safe := fun _ => trivial

section Steps

variable [NameHash] {build : Build} {s : Dispatcher}

theorem Attended.step (hs : s.Attended) {event : DispatcherEvent} (hadmits : s.Admits event) :
    (s.step build event).Attended := by
  refine ⟨hs.toTracked.step event, ?_⟩
  cases event with
  | receive i message =>
      simp only [Dispatcher.step]
      split
      · exact forall_update (safe_start _ message) hs.safe
      · exact hs.safe
  | advance i =>
      have hstep := resumed_of_sound build hs.receiver (hs.sound i)
      apply forall_update (hstep.safe (hs.safe i))
      intro j
      apply (hs.safe j).of_keeps
      intro message id _ hin
      exact hstep.contains hin
  | createSession config id draws =>
      intro j
      apply (hs.safe j).of_keeps
      intro message other _ hin
      exact SessionLayer.contains_createSession hin config id draws
  | removeSession id =>
      intro j
      apply (hs.safe j).of_keeps
      intro message other htask hin
      have hne : other ≠ id := by
        rintro rfl
        exact hadmits j message htask
      simp only [Dispatcher.step, SessionLayer.removeSession, HashMap.contains_remove, hin,
        Bool.and_true, decide_eq_true_eq]
      exact hne
  | setSessionConfig config sessionId =>
      intro j
      apply (hs.safe j).of_keeps
      intro message other _ hin
      exact SessionLayer.contains_setSessionConfig hin config sessionId
  | addSessionInterceptor id interceptor =>
      intro j
      apply (hs.safe j).of_keeps
      intro message other _ hin
      exact (s.layer.addSessionInterceptor_keeps id interceptor).2 other hin

/-- A busy task moves by its own steps only. -/
theorem tasks_step_of_ne {i : Nat} (hbusy : (s.tasks i).remaining ≠ 0) {event : DispatcherEvent}
    (hother : event ≠ .advance i) : (s.step build event).tasks i = s.tasks i := by
  cases event with
  | receive j message =>
      simp only [Dispatcher.step]
      split
      next hidle =>
        have hne : i ≠ j := by
          rintro rfl
          exact hbusy hidle
        exact Function.update_of_ne hne _ _
      next => rfl
  | advance j =>
      have hne : i ≠ j := by
        rintro rfl
        exact hother rfl
      exact Function.update_of_ne hne _ _
  | _ => rfl

/-- A task takes up a message that it receives, or answers it with an error. -/
theorem tasks_step_receive {i : Nat} (hidle : (s.tasks i).remaining = 0) (message : ProtoMessage) :
    ((s.step build (.receive i message)).tasks i).Busy message ∨
      ∃ error, (s.step build (.receive i message)).tasks i = .answered error := by
  have hstarted : (s.step build (.receive i message)).tasks i = start message := by
    simp only [Dispatcher.step, if_pos hidle, Function.update_self]
  rw [hstarted]
  rcases start_cases message with ⟨error, hstart⟩ | ⟨id, headerType, hstart, -⟩
  · exact .inr ⟨error, hstart⟩
  · rw [hstart]
    exact .inl ⟨by simp [remaining], rfl⟩

/-- In every run from a new session layer whose steps meet the condition, no task has panicked,
    and no message is lost: a task that is free takes up the message it receives or answers it
    with an error; whatever else happens it stays at work on it, comes nearer to its end with
    each of its own steps, and the step that ends it hands the message to the session that is
    registered under the id in the header or answers with an error. -/
theorem dispatch_safe (build : Build) (agentName : Agent) (identity : Option String)
    (events : List DispatcherEvent)
    (hsteps : Runs.Along (step build) Admits (new agentName identity) events) (i : Nat) :
    let s := Runs.run (step build) (new agentName identity) events
    (∀ panic, s.tasks i ≠ .panicked panic) ∧
      ∀ message,
        ((s.tasks i).remaining = 0 →
          ((s.step build (.receive i message)).tasks i).Busy message ∨
            ∃ error, (s.step build (.receive i message)).tasks i = .answered error) ∧
        ((s.tasks i).Busy message →
          (∀ event, event ≠ .advance i → (s.step build event).tasks i = s.tasks i) ∧
          ((s.step build (.advance i)).tasks i).remaining < (s.tasks i).remaining ∧
          (((s.step build (.advance i)).tasks i).Busy message ∨
            Dispatched s.layer message ((s.step build (.advance i)).tasks i))) := by
  intro s
  have hs : s.Attended := Runs.run_invariant (fun _ _ hs hadmits => hs.step hadmits) events _
    hsteps (attended_new agentName identity)
  have hstep := resumed_of_sound build hs.receiver (hs.sound i)
  refine ⟨?_, fun message => ⟨fun hidle => tasks_step_receive hidle message, fun hbusy => ?_⟩⟩
  · intro panic hpanicked
    have hsafe := hs.safe i
    rw [hpanicked] at hsafe
    exact hsafe
  · refine ⟨fun event => tasks_step_of_ne hbusy.1, ?_⟩
    simp only [Dispatcher.step, Function.update_self]
    exact ⟨hstep.remaining_lt hbusy.1, hstep.busy_or_dispatched (hs.safe i) hbusy⟩

end Steps

/-! ### A session that is removed too early -/

/-- A stream message for session 5. -/
def sampleInbound : ProtoMessage :=
  ProtoMessage.newPublishWithHeaders
    (some (ProtoSlimHeader.new ⟨SessionLayer.sampleTopic, 8⟩ SessionLayer.sampleTopic none none))
    (some ⟨SessionHeaderType.stream.toInt, 5, 0⟩) "" []

/-- The session layer of the examples, without sessions. -/
def sampleDispatcher : Dispatcher := new ⟨SessionLayer.sampleTopic, 7⟩ none

/-- The task has created the session; the session is removed, and the second lookup
    panics. -/
theorem removed_session_panics :
    ((Runs.run (@step sampleHash .release) sampleDispatcher
      [.receive 0 sampleInbound, .advance 0, .advance 0, .advance 0, .removeSession 5,
        .advance 0]).tasks 0) = .panicked .sessionNotFound := rfl

theorem dispatch_safe_sample :
    ∃ session received,
      (Runs.run (@step sampleHash .release) sampleDispatcher
        [.receive 0 sampleInbound, .advance 0, .advance 0, .advance 0, .advance 0]).tasks 0 =
          .handed sampleInbound session received ∧
        (Runs.run (@step sampleHash .release) sampleDispatcher
          [.receive 0 sampleInbound, .advance 0, .advance 0, .advance 0]).layer.pool.get? 5 =
            some session := by
  refine ⟨_, _, rfl, ?_⟩
  obtain ⟨-, hmessage⟩ := @dispatch_safe sampleHash .release ⟨SessionLayer.sampleTopic, 7⟩ none
    [.receive 0 sampleInbound, .advance 0, .advance 0, .advance 0]
    ⟨trivial, trivial, trivial, trivial, trivial⟩ 0
  obtain ⟨-, -, hbusy | hdispatched⟩ := (hmessage sampleInbound).2 ⟨by decide, rfl⟩
  · exact absurd rfl hbusy.1
  · change Dispatched _ sampleInbound (.handed sampleInbound _ _) at hdispatched
    cases hdispatched with
    | handed hheader hsession =>
        cases hheader
        exact hsession

/-- The session for the stream message gets its id. -/
theorem implicit_session_keeps_id_sample :
    ∃ info left, @SessionLayer.createSession sampleHash sampleDispatcher.layer
        (.streaming .default) (some 5) [] = (.created info, left) ∧ info.id = 5 := by
  refine ⟨_, _, rfl, ?_⟩
  obtain ⟨-, hcreates, -⟩ := @implicit_session_keeps_id sampleHash .debug
    ⟨SessionLayer.sampleTopic, 7⟩ none [.receive 0 sampleInbound, .advance 0, .advance 0]
  exact (hcreates 0 _ _ _ _ _ _ rfl rfl).1

end Dispatcher

end Slim
