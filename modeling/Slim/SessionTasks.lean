import Slim.SessionAccess

/-!
# The tasks of the sessions, and the messages that stop them

A session of any kind is followed from its creation on.  Messages reach it through
`handle_message`: those of the network with an info read off the message, those of the
application as `publish_with_flags` builds them.  Between them its timers run out and its
configuration changes.  The session layer may look different for every message, since other
calls change it meanwhile.
-/

namespace Slim

open HashKey Machine Runs

/-! ## Tasks -/

/-- What stops the task of a session. -/
inductive TaskPanic where
  | access (panic : AccessPanic)
  | messageIdNotFound
  | arithmetic (panic : Panic)
deriving DecidableEq, Repr

/-- The task has come to an accessor that panics, or to the `expect` on the message id. -/
def TaskPanic.isAccessor : TaskPanic → Bool
  | access _ => true
  | messageIdNotFound => true
  | arithmetic _ => false

inductive SessionTask where
  | streaming (ctx : StreamContext) (endpoint : Endpoint)
  | fireAndForget (processor : FireAndForgetProcessor)
  | requestResponse (session : RequestResponse)

/-- The build, and what the code does not decide. -/
structure TaskEnvironment where
  build : Build
  fnf : FnfEnvironment

/-- What the code does not decide for a single message: whether the channel to the network is
    closed, the number of a request and its random id, and what a channel reports. -/
structure Circumstances where
  slimClosed : Bool
  request : Nat
  draw : UInt32
  sendError : Option String

/-- What may happen to a task apart from messages. -/
inductive SessionTaskEvent where
  | rtxTimer (msgId : UInt32) (retry : Bool) (producerName : Agent)
  | producerTimer
  | setConfig (config : FireAndForgetConfiguration)
  | timerTimeout (messageId : UInt32)
  | timerFailure (messageId : UInt32)
  | exit
  | startTimer (i : Nat)
  | insertEntry (i : Nat)
  | endTimer (i : Nat)
  | onFailure (i : Nat)

namespace SessionTaskEvent

def stream? : SessionTaskEvent → Option StreamEvent
  | rtxTimer msgId retry producerName => some (.rtxTimer msgId retry producerName)
  | producerTimer => some .producerTimer
  | _ => none

def fnf? : SessionTaskEvent → Option FnfEvent
  | setConfig config => some (.setConfig config)
  | timerTimeout messageId => some (.timerTimeout messageId)
  | timerFailure messageId => some (.timerFailure messageId)
  | exit => some .exit
  | _ => none

def request? : SessionTaskEvent → Option RequestEvent
  | startTimer i => some (.startTimer i)
  | insertEntry i => some (.insertEntry i)
  | endTimer i => some (.endTimer i)
  | onFailure i => some (.onFailure i)
  | _ => none

end SessionTaskEvent

namespace SessionTask

/-- The task that is started with a session. -/
def new (build : Build) (session : Common) : SessionTask :=
  match session.sessionConfig with
  | .fireAndForget config =>
      fireAndForget (FireAndForgetProcessor.new session.id session.source config)
  | .requestResponse _ => requestResponse (RequestResponse.new session)
  | .streaming config =>
      streaming ⟨build, session.id, session.source, config.maxRetries, config.timeout⟩
        (Endpoint.new session.sessionDirection)

/-- An error is logged. -/
def onFnfEvent (env : FnfEnvironment) (p : FireAndForgetProcessor) (event : FnfEvent) :
    Except TaskPanic SessionTask :=
  if p.running then
    match FireAndForgetProcessor.handleEvent env event p with
    | .error (.panic panic) _ => .error (.access panic)
    | .error .messageIdNotFound _ => .error .messageIdNotFound
    | .error (.error _) left => .ok (fireAndForget left)
    | .ok _ left => .ok (fireAndForget left)
  else .ok (fireAndForget p)

def onRequestMessage (s : RequestResponse) (message : SessionMessage) (chance : Circumstances) :
    MessageDirection → Except TaskPanic SessionTask
  | .North =>
      match s.onMessageNorth message chance.sendError with
      | .error panic => .error (.access panic)
      | .ok _ => .ok (requestResponse (s.step (.north message chance.sendError)))
  | .South =>
      match s.onMessageSouth chance.request message chance.draw chance.sendError with
      | .error panic => .error (.access panic)
      | .ok _ => .ok (requestResponse
          (s.step (.south chance.request message chance.draw chance.sendError)))

variable [NameHash]

def onStreamEvent (ctx : StreamContext) (endpoint : Endpoint) (event : StreamEvent) :
    Except TaskPanic SessionTask :=
  match endpoint.processEvent ctx event with
  | .error (.access panic) => .error (.access panic)
  | .error (.arithmetic panic) => .error (.arithmetic panic)
  | .ok (_, next) => .ok (streaming ctx next)

/-- `on_message` of the session, and what its task makes of the message. -/
def onMessage (env : TaskEnvironment) (message : SessionMessage) (direction : MessageDirection)
    (chance : Circumstances) : SessionTask → Except TaskPanic SessionTask
  | streaming ctx endpoint =>
      onStreamEvent ctx endpoint (.message message.message direction chance.slimClosed)
  | fireAndForget p => onFnfEvent env.fnf p (.onMessage message direction)
  | requestResponse s => onRequestMessage s message chance direction

/-- An event of another kind of session does not occur. -/
def onEvent (env : TaskEnvironment) (event : SessionTaskEvent) :
    SessionTask → Except TaskPanic SessionTask
  | streaming ctx endpoint =>
      match event.stream? with
      | some event => onStreamEvent ctx endpoint event
      | none => .ok (streaming ctx endpoint)
  | fireAndForget p =>
      match event.fnf? with
      | some event => onFnfEvent env.fnf p event
      | none => .ok (fireAndForget p)
  | requestResponse s =>
      match event.request? with
      | some event => .ok (requestResponse (s.step event))
      | none => .ok (requestResponse s)

end SessionTask

/-! ## Sessions among the messages of a node -/

/-- What is found in the pool is the session itself, maybe with another configuration and with
    more interceptors. -/
def Common.IsSession (holder session : Common) : Prop :=
  holder.id = session.id ∧ holder.source = session.source ∧
    holder.sessionDirection = session.sessionDirection ∧
    holder.sessionConfig.sessionType = session.sessionConfig.sessionType

instance (holder session : Common) : Decidable (holder.IsSession session) :=
  inferInstanceAs (Decidable (_ ∧ _))

/-- A message comes with the session layer as it is at that time. -/
inductive SessionEvent where
  | north (layer : SessionLayer) (message : ProtoMessage) (chance : Circumstances)
  | south (layer : SessionLayer) (publication : Publication) (chance : Circumstances)
  | other (event : SessionTaskEvent)

namespace SessionTask

variable [NameHash]

/-- A message that `handle_message` accepts for the session goes to its task. -/
def receive (env : TaskEnvironment) (session : Common) (layer : SessionLayer)
    (message : SessionMessage) (direction : MessageDirection) (chance : Circumstances)
    (task : SessionTask) : Except TaskPanic SessionTask :=
  match (layer.handleMessage env.build message direction).1 with
  | .handed _ holder received =>
      if holder.IsSession session then
        task.onMessage env ⟨received, message.info⟩ direction chance
      else .ok task
  | _ => .ok task

/-- A message of the network whose info cannot be read stops the loop of the service. -/
def handle (env : TaskEnvironment) (session : Common) (task : SessionTask) :
    SessionEvent → Except TaskPanic SessionTask
  | .north layer message chance =>
      match Info.ofMessage message with
      | .error _ => .ok task
      | .ok info => task.receive env session layer ⟨message, info⟩ .North chance
  | .south layer publication chance =>
      task.receive env session layer publication.message .South chance
  | .other event => task.onEvent env event

def step (env : TaskEnvironment) (session : Common) (state : Except TaskPanic SessionTask)
    (event : SessionEvent) : Except TaskPanic SessionTask :=
  match state with
  | .error panic => .error panic
  | .ok task => task.handle env session event

end SessionTask

/-! ## Messages that suit the session -/

/-- What the data path sets: the incoming connection, and a source with its id.  Interceptors
    leave the headers of a message alone, as those of the repository do. -/
def SessionEvent.Admissible : SessionEvent → Prop
  | north layer message _ => layer.KeepsHeaders ∧ (∃ source, message.getSource = .ok source) ∧
      ∃ connection, message.getIncomingConn = .ok connection
  | south layer _ _ => layer.KeepsHeaders
  | other _ => True

/-- A publication for a streaming session that only receives has an incoming connection among
    its flags, and an id in its source.  In a fire-and-forget session the agents have ids. -/
def SessionEvent.Suits (session : Common) : SessionEvent → Prop
  | north _ _ _ => session.sessionConfig.sessionType = .FireAndForget →
      session.source.agentId ≠ DEFAULT_AGENT_ID
  | south _ publication _ =>
      match session.sessionConfig.sessionType with
      | .FireAndForget => publication.source.agentId ≠ DEFAULT_AGENT_ID
      | .RequestResponse => True
      | .Streaming => session.sessionDirection = .Receiver →
          publication.flags.incomingConn.isSome = true ∧
            publication.source.agentId ≠ DEFAULT_AGENT_ID
  | other _ => True

namespace SessionTask

/-- The task is of the kind of the session, and what it has stored can be read later. -/
def Ready (session : Common) : SessionTask → Prop
  | streaming _ endpoint => session.sessionConfig.sessionType = .Streaming ∧
      endpoint.Ready session.sessionDirection
  | fireAndForget p => session.sessionConfig.sessionType = .FireAndForget ∧ p.Ready session.source
  | requestResponse _ => session.sessionConfig.sessionType = .RequestResponse

/-- No accessor has stopped the task. -/
def Safe (session : Common) : Except TaskPanic SessionTask → Prop
  | .ok task => task.Ready session
  | .error panic => panic.isAccessor = false

theorem ready_new (build : Build) (session : Common) : (new build session).Ready session := by
  unfold new
  split
  next config hconfig =>
    refine ⟨?_, FireAndForgetProcessor.ready_new session.id session.source config⟩
    rw [hconfig]
    rfl
  next config hconfig =>
    rw [Ready, hconfig]
    rfl
  next config hconfig =>
    refine ⟨?_, Endpoint.ready_new session.sessionDirection⟩
    rw [hconfig]
    rfl

section Safe

variable {env : TaskEnvironment} {session : Common} {task : SessionTask} {layer : SessionLayer}
  {chance : Circumstances} {message : SessionMessage} {sessionHeader : SessionHeader}
  {publication : Publication}

theorem safe_onFnfEvent {p : FireAndForgetProcessor} {event : FnfEvent}
    (hkind : session.sessionConfig.sessionType = .FireAndForget) (hs : p.Ready session.source)
    (hfine : FireAndForgetProcessor.Fine (FireAndForgetProcessor.Ready session.source)
      (FireAndForgetProcessor.handleEvent env.fnf event p)) :
    Safe session (onFnfEvent env.fnf p event) := by
  unfold onFnfEvent
  split
  next =>
    split
    next panic left hresult =>
      rw [hresult] at hfine
      cases hfine.1
    next left hresult =>
      rw [hresult] at hfine
      cases hfine.1
    next error left hresult =>
      rw [hresult] at hfine
      exact ⟨hkind, hfine.2⟩
    next value left hresult =>
      rw [hresult] at hfine
      exact ⟨hkind, hfine⟩
  next => exact ⟨hkind, hs⟩

variable [NameHash]

theorem safe_onStreamEvent {ctx : StreamContext} {endpoint : Endpoint} {event : StreamEvent}
    (hkind : session.sessionConfig.sessionType = .Streaming)
    (hsurvives : Survives (Endpoint.Ready session.sessionDirection)
      (endpoint.processEvent ctx event)) :
    Safe session (onStreamEvent ctx endpoint event) := by
  unfold onStreamEvent
  revert hsurvives
  generalize endpoint.processEvent ctx event = result
  intro hsurvives
  cases hsurvives with
  | stopped panic => rfl
  | continues hnext => exact ⟨hkind, hnext⟩

/-- Timers and changes of the configuration. -/
theorem Ready.onEvent (hs : task.Ready session) (event : SessionTaskEvent) :
    Safe session (task.onEvent env event) := by
  cases task with
  | streaming ctx endpoint =>
      obtain ⟨hkind, hready⟩ := hs
      cases event with
      | rtxTimer msgId retry producerName =>
          exact safe_onStreamEvent hkind (hready.rtxTimer msgId retry producerName)
      | producerTimer => exact safe_onStreamEvent hkind hready.producerTimer
      | _ => exact ⟨hkind, hready⟩
  | fireAndForget p =>
      obtain ⟨hkind, hready⟩ := hs
      cases event with
      | setConfig config =>
          have hfine : FireAndForgetProcessor.Fine (FireAndForgetProcessor.Ready session.source)
              (FireAndForgetProcessor.handleEvent env.fnf (.setConfig config) p) :=
            ⟨hready.source, hready.timers, hready.buffer⟩
          exact safe_onFnfEvent hkind hready hfine
      | timerTimeout messageId =>
          exact safe_onFnfEvent hkind hready (hready.handleTimerTimeout messageId)
      | timerFailure messageId =>
          exact safe_onFnfEvent hkind hready (hready.handleTimerFailure messageId)
      | exit =>
          have hfine : FireAndForgetProcessor.Fine (FireAndForgetProcessor.Ready session.source)
              (FireAndForgetProcessor.handleEvent env.fnf .exit p) := by
            refine ⟨hready.source, ?_, hready.buffer⟩
            intro messageId entry hentry
            cases hentry
          exact safe_onFnfEvent hkind hready hfine
      | _ => exact ⟨hkind, hready⟩
  | requestResponse s =>
      cases event with
      | startTimer i => exact hs
      | insertEntry i => exact hs
      | endTimer i => exact hs
      | onFailure i => exact hs
      | _ => exact hs

/-- A message of the network with its source and its connection. -/
theorem Ready.north (hs : task.Ready session)
    (hagent : session.sessionConfig.sessionType = .FireAndForget →
      session.source.agentId ≠ DEFAULT_AGENT_ID)
    {header : ProtoSlimHeader} (hheaders : message.message.Headers header sessionHeader)
    {source : Agent} (hsource : header.getSource = .ok source) {connection : Nat}
    (hconnection : header.incomingConn = some connection) {messageId : UInt32}
    (hid : message.info.messageId = some messageId) (chance : Circumstances) :
    Safe session (task.onMessage env message .North chance) := by
  cases task with
  | streaming ctx endpoint =>
      exact safe_onStreamEvent hs.1 (hs.2.north chance.slimClosed hheaders hsource hconnection)
  | fireAndForget p =>
      exact safe_onFnfEvent hs.1 hs.2
        (hs.2.handleMessageToApp (hagent hs.1) hheaders hsource hconnection hid)
  | requestResponse s =>
      obtain ⟨result, hresult⟩ := s.exists_onMessageNorth hheaders chance.sendError
      simp only [onMessage, onRequestMessage, hresult]
      exact hs

/-- A publication that suits the session. -/
theorem Ready.south (hs : task.Ready session)
    (hsuits : (SessionEvent.south layer publication chance).Suits session)
    (hheaders : message.message.Headers
      (ProtoSlimHeader.new publication.source publication.agentType publication.agentId
        (some publication.flags)) sessionHeader) :
    Safe session (task.onMessage env message .South chance) := by
  unfold SessionEvent.Suits at hsuits
  cases task with
  | streaming ctx endpoint =>
      obtain ⟨hkind, hready⟩ := hs
      rw [hkind] at hsuits
      refine safe_onStreamEvent hkind (hready.south chance.slimClosed hheaders rfl ?_)
      intro hreceiver
      obtain ⟨hconnection, hid⟩ := hsuits hreceiver
      exact ⟨ProtoSlimHeader.getSource_new hid _ _ _, hconnection⟩
  | fireAndForget p =>
      obtain ⟨hkind, hready⟩ := hs
      rw [hkind] at hsuits
      obtain ⟨source, hsource⟩ := ProtoSlimHeader.getSource_new hsuits publication.agentType
        publication.agentId (some publication.flags)
      exact safe_onFnfEvent hkind hready (hready.handleMessageToSlim hheaders hsource rfl)
  | requestResponse s =>
      obtain ⟨result, hresult⟩ := s.exists_onMessageSouth hheaders chance.request chance.draw
        chance.sendError
      simp only [onMessage, onRequestMessage, hresult]
      exact hs

theorem Ready.receive (hs : task.Ready session) {direction : MessageDirection}
    (hhanded : ∀ original holder received,
      (layer.handleMessage env.build message direction).1 = .handed original holder received →
        Safe session (task.onMessage env ⟨received, message.info⟩ direction chance)) :
    Safe session (task.receive env session layer message direction chance) := by
  unfold SessionTask.receive
  split
  next original holder received haccepted =>
    split
    next => exact hhanded original holder received haccepted
    next => exact hs
  next => exact hs

theorem Ready.handle (hs : task.Ready session) {event : SessionEvent}
    (hadmissible : event.Admissible) (hsuits : event.Suits session) :
    Safe session (task.handle env session event) := by
  cases event with
  | north layer message chance =>
      obtain ⟨hlayer, ⟨source, hsource⟩, ⟨connection, hconnection⟩⟩ := hadmissible
      simp only [SessionTask.handle]
      split
      next => exact hs
      next info hinfo =>
        refine hs.receive fun original holder received hhanded => ?_
        obtain ⟨header, sessionHeader, hheaders, hreceived⟩ :=
          SessionLayer.headers_of_north hlayer hhanded
        have hfrom : header.getSource = .ok source := hheaders.getSource.symm.trans hsource
        have hincoming : header.incomingConn = some connection := by
          rw [hheaders.getIncomingConn] at hconnection
          exact eq_some_of_orPanic hconnection
        obtain ⟨found, hfound, hid⟩ := hheaders.ofMessage hfrom
        rw [hinfo] at hfound
        cases hfound
        exact hs.north hsuits hreceived hfrom hincoming hid chance
  | south layer publication chance =>
      refine hs.receive fun original holder received hhanded => ?_
      exact hs.south hsuits (SessionLayer.headers_of_south hadmissible hhanded)
  | other event => exact hs.onEvent event

theorem safe_step {state : Except TaskPanic SessionTask} {event : SessionEvent}
    (hs : Safe session state) (hadmissible : event.Admissible) (hsuits : event.Suits session) :
    Safe session (step env session state event) := by
  cases state with
  | error panic => exact hs
  | ok task => exact hs.handle hadmissible hsuits

/-- Without its connection or the id of its source a publication stops the task of a session
    that only receives. -/
theorem receiver_stops (env : TaskEnvironment) (ctx : StreamContext) (state : ReceiverState)
    (hheaders : message.message.Headers
      (ProtoSlimHeader.new publication.source publication.agentType publication.agentId
        (some publication.flags)) sessionHeader)
    (hmissing : publication.flags.incomingConn = none ∨
      publication.source.agentId = DEFAULT_AGENT_ID)
    (chance : Circumstances) :
    ∃ panic, (streaming ctx (.receiver state)).onMessage env message .South chance =
      .error (.access panic) := by
  have hlacks : (ProtoSlimHeader.new publication.source publication.agentType publication.agentId
        (some publication.flags)).incomingConn = none ∨
      ∃ panic, (ProtoSlimHeader.new publication.source publication.agentType publication.agentId
        (some publication.flags)).getSource = .error panic := by
    rcases hmissing with hconnection | hid
    · exact .inl hconnection
    · exact .inr ⟨_, ProtoSlimHeader.getSource_new_default hid _ _ _⟩
  obtain ⟨panic, hpanic⟩ := state.processMessageFromSlim_panics ctx hheaders hlacks
  refine ⟨panic, ?_⟩
  simp only [onMessage, onStreamEvent, Endpoint.processEvent, Endpoint.onMessage, hpanic]
  rfl

/-- Without the id of its source a publication stops the task of a fire-and-forget session that
    logs what it sends. -/
theorem sender_stops {env : TaskEnvironment} {p : FireAndForgetProcessor}
    (hrunning : p.running = true) (hdebug : env.fnf.debug = true)
    (hsticky : p.state.config.sticky = false)
    (hheaders : message.message.Headers
      (ProtoSlimHeader.new publication.source publication.agentType publication.agentId
        (some publication.flags)) sessionHeader)
    (hid : publication.source.agentId = DEFAULT_AGENT_ID) (chance : Circumstances) :
    ∃ panic, (fireAndForget p).onMessage env message .South chance = .error (.access panic) := by
  obtain ⟨left, hleft⟩ := FireAndForgetProcessor.handleMessageToSlim_panics hdebug hsticky hheaders
    (ProtoSlimHeader.getSource_new_default hid _ _ _)
  have hevent : FireAndForgetProcessor.handleEvent env.fnf (.onMessage message .South) p =
      .error (.panic .agentIdNotFound) left := hleft
  refine ⟨.agentIdNotFound, ?_⟩
  simp only [onMessage, onFnfEvent, if_pos hrunning, hevent]

/-- Where the task reads what a publication may lack: in a streaming session that only receives,
    and in a fire-and-forget session that logs and has no need to look for a peer. -/
def Reads (env : TaskEnvironment) : SessionTask → Prop
  | streaming _ endpoint => endpoint.direction = .Receiver
  | fireAndForget p => p.running = true ∧ env.fnf.debug = true ∧ p.state.config.sticky = false
  | requestResponse _ => False

/-- There a publication that does not suit the session stops the task. -/
theorem Ready.stops (hs : task.Ready session) (hreads : task.Reads env)
    (hunsuited : ¬ (SessionEvent.south layer publication chance).Suits session)
    (hheaders : message.message.Headers
      (ProtoSlimHeader.new publication.source publication.agentType publication.agentId
        (some publication.flags)) sessionHeader) :
    ∃ panic, task.onMessage env message .South chance = .error (.access panic) := by
  simp only [SessionEvent.Suits] at hunsuited
  cases task with
  | streaming ctx endpoint =>
      obtain ⟨hkind, hdirection, -⟩ := hs
      rw [hkind] at hunsuited
      have hmissing : publication.flags.incomingConn = none ∨
          publication.source.agentId = DEFAULT_AGENT_ID := by
        by_contra hboth
        rw [not_or] at hboth
        apply hunsuited
        intro _
        exact ⟨Option.isSome_iff_ne_none.2 hboth.1, hboth.2⟩
      cases endpoint with
      | producer prod => cases hreads
      | bidirectional recv prod => cases hreads
      | receiver recv => exact receiver_stops env ctx recv hheaders hmissing chance
  | fireAndForget p =>
      rw [hs.1] at hunsuited
      obtain ⟨hrunning, hdebug, hsticky⟩ := hreads
      exact sender_stops hrunning hdebug hsticky hheaders (not_not.1 hunsuited) chance
  | requestResponse s => exact hreads.elim

end Safe

/-- Along a run in which every message suits the session, no accessor stops the task, whatever the
    kind of the session.  Where the task reads what a publication may lack, such a stop is what a
    publication comes to exactly if it does not suit the session. -/
theorem accepted_messages_processed [NameHash] (env : TaskEnvironment) (session : Common)
    (events : List SessionEvent) (hadmissible : ∀ event ∈ events, event.Admissible)
    (hsuits : ∀ event ∈ events, event.Suits session) :
    (∀ panic, run (step env session) (.ok (new env.build session)) events = .error panic →
        panic.isAccessor = false) ∧
      ∀ task layer publication chance original holder received,
        run (step env session) (.ok (new env.build session)) events = .ok task →
        task.Reads env → layer.KeepsHeaders →
        (layer.handleMessage env.build publication.message .South).1 =
          .handed original holder received → holder.IsSession session →
        ((∃ panic, step env session (.ok task) (.south layer publication chance) = .error panic ∧
            panic.isAccessor = true) ↔
          ¬ (SessionEvent.south layer publication chance).Suits session) := by
  have halong : Along (step env session) (fun _ event => event.Admissible ∧ event.Suits session)
      (.ok (new env.build session)) events :=
    along_of_forall events _ fun event hevent => ⟨hadmissible event hevent, hsuits event hevent⟩
  have hsafe : Safe session (run (step env session) (.ok (new env.build session)) events) :=
    run_invariant (I := Safe session) (fun _ _ hs hevent => safe_step hs hevent.1 hevent.2)
      events _ halong (ready_new env.build session)
  constructor
  · intro panic hpanic
    rw [hpanic] at hsafe
    exact hsafe
  · intro task layer publication chance original holder received htask hreads hlayer hhanded
      hsession
    rw [htask] at hsafe
    constructor
    · rintro ⟨panic, hpanic, haccessor⟩ hsuited
      have hstep : Safe session (step env session (.ok task) (.south layer publication chance)) :=
        safe_step hsafe hlayer hsuited
      rw [hpanic] at hstep
      have hnone : panic.isAccessor = false := hstep
      rw [hnone] at haccessor
      cases haccessor
    · intro hunsuited
      have hheaders : (SessionMessage.mk received publication.info).message.Headers _ _ :=
        SessionLayer.headers_of_south hlayer hhanded
      obtain ⟨panic, hpanic⟩ := Ready.stops hsafe hreads hunsuited hheaders
      refine ⟨.access panic, ?_, rfl⟩
      simp only [step, handle, receive, hhanded, if_pos hsession]
      exact hpanic

/-! ## A publication for a receiver -/

def receiverAgent : Agent := ⟨⟨1, 1, 1, none⟩, 7⟩

def receiverSession : Common :=
  Common.new 5 .Receiver (.streaming StreamingConfiguration.default) receiverAgent none

def receiverLayer : SessionLayer :=
  { SessionLayer.new receiverAgent none with pool := HashMap.empty.insert 5 receiverSession }

def quietEnvironment : TaskEnvironment :=
  ⟨.release, ⟨fun _ => 1, fun _ => none, fun _ => none, false⟩⟩

/-- The application of the receiver publishes into its session. -/
def publicationWith (flags : SlimHeaderFlags) : Publication :=
  ⟨receiverAgent, Info.new 5, ⟨1, 1, 2, none⟩, none, flags, [1]⟩

def streamMessage : ProtoMessage :=
  ProtoMessage.newPublishWithHeaders
    (some (ProtoSlimHeader.new ⟨⟨1, 1, 2, none⟩, 8⟩ receiverAgent.agentType (some 7)
      (some { SlimHeaderFlags.default with incomingConn := some 3 })))
    (some ⟨SessionHeaderType.stream.toInt, 5, 0⟩) "msg" [1]

theorem keepsHeaders_receiverLayer : receiverLayer.KeepsHeaders := by
  intro id session hsession
  rw [receiverLayer, HashMap.get?_insert] at hsession
  split at hsession
  next =>
    cases hsession
    exact Common.keepsHeaders_new _ _ _ _ _
  next => cases hsession

theorem accepted_messages_processed_sample :
    (∃ original received,
        (@SessionLayer.handleMessage sampleHash .release receiverLayer
          (publicationWith { SlimHeaderFlags.default with incomingConn := some 3 }).message
          .South).1 =
          .handed original receiverSession received) ∧
      ∀ panic, run (@step sampleHash quietEnvironment receiverSession)
          (.ok (new .release receiverSession))
          [.north receiverLayer streamMessage ⟨false, 0, 1, none⟩,
            .south receiverLayer
              (publicationWith { SlimHeaderFlags.default with incomingConn := some 3 })
              ⟨false, 0, 1, none⟩,
            .other (.rtxTimer 1 false receiverAgent)] = .error panic →
        panic.isAccessor = false := by
  refine ⟨⟨_, _, rfl⟩, ?_⟩
  refine (@accepted_messages_processed sampleHash quietEnvironment receiverSession _ ?_ ?_).1
  · intro event hevent
    rcases List.mem_cons.1 hevent with rfl | hevent
    · exact ⟨keepsHeaders_receiverLayer, ⟨_, rfl⟩, ⟨_, rfl⟩⟩
    rcases List.mem_cons.1 hevent with rfl | hevent
    · exact keepsHeaders_receiverLayer
    rw [List.mem_singleton.1 hevent]
    trivial
  · intro event hevent
    rcases List.mem_cons.1 hevent with rfl | hevent
    · intro hkind
      cases hkind
    rcases List.mem_cons.1 hevent with rfl | hevent
    · intro _
      exact ⟨rfl, by decide⟩
    rw [List.mem_singleton.1 hevent]
    trivial

/-- A publication without an incoming connection, as `publish` builds it, is accepted, and stops
    the task of a session that only receives. -/
theorem publication_stops_receiver :
    (∃ original received,
        (@SessionLayer.handleMessage sampleHash .release receiverLayer
          (publicationWith SlimHeaderFlags.default).message .South).1 =
          .handed original receiverSession received) ∧
      run (@step sampleHash quietEnvironment receiverSession) (.ok (new .release receiverSession))
        [.south receiverLayer (publicationWith SlimHeaderFlags.default) ⟨false, 0, 1, none⟩] =
        .error (.access .unwrapNone) := by
  refine ⟨⟨_, _, rfl⟩, ?_⟩
  rfl

end SessionTask

end Slim
