import Slim.Session
import Slim.Runs

/-!
# Fire and forget: `fire_and_forget.rs`

The task of a session handles one message of its channel after the other: a message of
the application or of the network, a new configuration, or an event of a timer.  With a
timeout in the configuration every message that is sent gets a timer under its random id,
until an acknowledgement takes the timer away or the timer gives up.  A sticky session
first looks for a peer, and keeps the messages of the application until it has found one.

What a handler has done before it fails stays done.  An error is logged and the loop goes
on; a panic ends the task.
-/

namespace Slim

open HashKey Machine

inductive StickySessionStatus where
  | Uninitialized
  | Discovering
  | Established
deriving DecidableEq, Repr

/-- A timer of the constant type.  `call` is the number of the call of `send_message` that
    made the timer, which tells it from every other one. -/
structure FnfTimer where
  timerId : UInt32
  duration : Duration
  maxRetries : Option UInt32
  call : Nat
deriving DecidableEq, Repr

structure FireAndForgetState where
  sessionId : UInt32
  source : Agent
  config : FireAndForgetConfiguration
  timers : HashMap UInt32 (FnfTimer × ProtoMessage)
  stickyName : Option Agent
  stickyConnection : Option Nat
  stickySessionStatus : StickySessionStatus
  stickyBuffer : List ProtoMessage

/-- Why a message is handed to the network.  The first three are the callers of
    `send_message`. -/
inductive SlimOrigin where
  | application
  | buffer
  | discoveryReply
  | probe
  | acknowledgement
  | retransmission
deriving DecidableEq, Repr

def SlimOrigin.isCall : SlimOrigin → Bool
  | application => true
  | buffer => true
  | discoveryReply => true
  | probe => false
  | acknowledgement => false
  | retransmission => false

/-- The processor with what it has done: the calls of `send_message` in order, each with
    the message as it is sent; the messages ever put into the sticky buffer; the timers that
    acknowledgements have stopped; and what the two channels have taken, the items for the
    application with the call whose timer has given up. -/
structure FireAndForgetProcessor where
  state : FireAndForgetState
  sent : List (SlimOrigin × ProtoMessage)
  pushed : List ProtoMessage
  stopped : List FnfTimer
  toSlim : List (SlimOrigin × ProtoMessage)
  toApp : List (Option Nat × Except SessionError SessionMessage)
  slimSends : Nat
  appSends : Nat
  running : Bool

/-- What the code does not decide: the random ids by the number of the call, what the
    channels report to each attempt to send, and whether `debug!` looks at its arguments. -/
structure FnfEnvironment where
  draw : Nat → UInt32
  slimSend : Nat → Option String
  appSend : Nat → Option String
  debug : Bool

/-- How a handler ends early. -/
inductive Interruption where
  | panic (panic : AccessPanic)
  | messageIdNotFound -- the `expect` on the message id
  | error (error : SessionError)

/-- The task does not survive it. -/
def Interruption.isPanic : Interruption → Bool
  | panic _ => true
  | messageIdNotFound => true
  | error _ => false

abbrev FnfHandler := EStateM Interruption FireAndForgetProcessor

/-- The result of a handler together with the processor it leaves. -/
abbrev FnfResult := EStateM.Result Interruption FireAndForgetProcessor

/-! ## The state -/

namespace FireAndForgetState

def new (sessionId : UInt32) (source : Agent) (config : FireAndForgetConfiguration) :
    FireAndForgetState where
  sessionId := sessionId
  source := source
  config := config
  timers := HashMap.empty
  stickyName := none
  stickyConnection := none
  stickySessionStatus := .Uninitialized
  stickyBuffer := []

/-- The message with its ids, and with the peer as its destination once there is one. -/
def stampMessage (state : FireAndForgetState) (message : ProtoMessage) (messageId : UInt32) :
    Except AccessPanic ProtoMessage := do
  let message ← message.modifySessionHeader fun header =>
    { header with messageId := messageId, sessionId := state.sessionId }
  match state.stickyName with
  | some name => do
      let message ← message.setDestination name
      message.setForwardTo state.stickyConnection
  | none => return message

/-- With a timeout the message is stored with its timer.  A timer that was there under the
    same id is dropped, which cancels it. -/
def startTimer (state : FireAndForgetState) (call : Nat) (messageId : UInt32)
    (message : ProtoMessage) : FireAndForgetState :=
  match state.config.timeout with
  | some duration =>
      { state with
        timers := state.timers.insert messageId
          (⟨messageId, duration, state.config.maxRetries, call⟩, message) }
  | none => state

/-- The header type of a message of the application. -/
def headerType (state : FireAndForgetState) : SessionHeaderType :=
  if state.config.timeout.isSome then .fnfReliable else .fnf

/-- The session is sticky and has no peer yet. -/
def isSearching (state : FireAndForgetState) : Bool :=
  state.config.sticky && state.stickyName.isNone

/-- The source of the message is not the wrong one. -/
def Accepts (state : FireAndForgetState) (message : ProtoMessage) : Prop :=
  state.config.sticky = true → ∀ name, state.stickyName = some name →
    ∃ source, message.getSource = .ok source ∧ key name = key source

end FireAndForgetState

namespace FireAndForgetProcessor

def new (sessionId : UInt32) (source : Agent) (config : FireAndForgetConfiguration) :
    FireAndForgetProcessor where
  state := FireAndForgetState.new sessionId source config
  sent := []
  pushed := []
  stopped := []
  toSlim := []
  toApp := []
  slimSends := 0
  appSends := 0
  running := true

/-! ## The changes -/

/-- A call of `send_message` has its message ready. -/
def record (p : FireAndForgetProcessor) (origin : SlimOrigin) (messageId : UInt32)
    (message : ProtoMessage) : FireAndForgetProcessor :=
  { p with
    state := p.state.startTimer p.sent.length messageId message
    sent := p.sent ++ [(origin, message)] }

/-- The session is sticky from now on. -/
def bindTo (p : FireAndForgetProcessor) (name : Agent) (connection : Nat) :
    FireAndForgetProcessor :=
  { p with
    state := { p.state with
      stickyName := some name
      stickyConnection := some connection
      stickySessionStatus := .Established } }

def drain (p : FireAndForgetProcessor) : FireAndForgetProcessor :=
  { p with state := { p.state with stickyBuffer := [] } }

def push (p : FireAndForgetProcessor) (message : ProtoMessage) : FireAndForgetProcessor :=
  { p with
    state := { p.state with stickyBuffer := p.state.stickyBuffer ++ [message] }
    pushed := p.pushed ++ [message] }

def setStatus (p : FireAndForgetProcessor) (status : StickySessionStatus) :
    FireAndForgetProcessor :=
  { p with state := { p.state with stickySessionStatus := status } }

def removeTimer (p : FireAndForgetProcessor) (messageId : UInt32) : FireAndForgetProcessor :=
  { p with state := { p.state with timers := p.state.timers.remove messageId } }

def stop (p : FireAndForgetProcessor) (timer : FnfTimer) : FireAndForgetProcessor :=
  { p with stopped := p.stopped ++ [timer] }

/-! ## The channels -/

def ofAccess {α : Type} (computation : Except AccessPanic α) : FnfHandler α := fun p =>
  match computation with
  | .ok value => .ok value p
  | .error panic => .error (.panic panic) p

/-- The arguments of `debug!`. -/
def traced {α : Type} (env : FnfEnvironment) (computation : Except AccessPanic α) :
    FnfHandler Unit :=
  if env.debug then do
    let _ ← ofAccess computation
    return ()
  else return ()

/-- `let _ = ..` on the result of a send. -/
def ignoreError (handler : FnfHandler Unit) : FnfHandler Unit := fun p =>
  match handler p with
  | .ok _ left => .ok () left
  | .error _ left => .ok () left

def sendToSlim (env : FnfEnvironment) (origin : SlimOrigin) (message : ProtoMessage) :
    FnfHandler Unit := fun p =>
  match env.slimSend p.slimSends with
  | some text => .error (.error (.slimTransmission text)) { p with slimSends := p.slimSends + 1 }
  | none => .ok () { p with
      slimSends := p.slimSends + 1
      toSlim := p.toSlim ++ [(origin, message)] }

/-- The error that the callers see names the other channel. -/
def sendToApp (env : FnfEnvironment) (call : Option Nat)
    (item : Except SessionError SessionMessage) : FnfHandler Unit := fun p =>
  match env.appSend p.appSends with
  | some text => .error (.error (.slimTransmission text)) { p with appSends := p.appSends + 1 }
  | none => .ok () { p with
      appSends := p.appSends + 1
      toApp := p.toApp ++ [(call, item)] }

/-! ## Timers -/

def handleTimerTimeout (env : FnfEnvironment) (messageId : UInt32) : FnfHandler Unit := do
  let p ← get
  match p.state.timers.get? messageId with
  | some (_, message) => ignoreError (sendToSlim env .retransmission message)
  | none => return ()

def handleTimerFailure (env : FnfEnvironment) (messageId : UInt32) : FnfHandler Unit := do
  let p ← get
  match p.state.timers.get? messageId with
  | some (timer, message) => do
      set (p.removeTimer messageId)
      let info ← ofAccess (Info.ofMessage message)
      ignoreError (sendToApp env (some timer.call)
        (.error (.timeout p.state.sessionId messageId ⟨message, info⟩)))
  | none => return ()

def stopAndRemoveTimer (messageId : UInt32) : FnfHandler Unit := do
  let p ← get
  match p.state.timers.get? messageId with
  | some (timer, _) => set ((p.removeTimer messageId).stop timer)
  | none => throw (.error (.appTransmission ("timer not found for message id " ++
      toString messageId)))

/-! ## `send_message` -/

def sendMessage (env : FnfEnvironment) (origin : SlimOrigin) (message : ProtoMessage) :
    FnfHandler Unit := do
  let p ← get
  let messageId := env.draw p.sent.length
  let message ← ofAccess (p.state.stampMessage message messageId)
  set (p.record origin messageId message)
  traced env message.getSource
  sendToSlim env origin message

/-- The first message that is not sent ends the loop, and those after it are dropped. -/
def sendAll (env : FnfEnvironment) : List ProtoMessage → FnfHandler Unit
  | [] => return ()
  | message :: messages => do
      sendMessage env .buffer message
      sendAll env messages

/-! ## Sticky sessions -/

def startStickySessionDiscovery (env : FnfEnvironment) (agentType : AgentType) :
    FnfHandler Unit := do
  let p ← get
  let probe := ProtoMessage.newPublish p.state.source agentType none none
    "sticky_session_discovery" []
  let probe ← ofAccess (probe.modifySessionHeader fun header =>
    { header with
      headerType := SessionHeaderType.fnfDiscovery.toInt
      sessionId := p.state.sessionId })
  set (p.setStatus .Discovering)
  sendToSlim env .probe probe

def discoveryReply (source : Agent) (peer : Agent) (connection : Nat) : ProtoMessage :=
  ProtoMessage.newPublish source peer.agentType (some peer.agentId)
    (some (SlimHeaderFlags.default.withForwardTo connection)) "sticky_session_discovery_reply" []

/-- Whatever the session was bound to before, it is bound to the source of this message. -/
def handleStickySessionDiscovery (env : FnfEnvironment) (message : SessionMessage) :
    FnfHandler Unit := do
  let source ← ofAccess message.message.getSource
  let connection ← ofAccess message.message.getIncomingConn
  let p ← get
  let reply ← ofAccess ((discoveryReply p.state.source source connection).setHeaderType
    .fnfDiscoveryReply)
  set (p.bindTo source connection)
  sendMessage env .discoveryReply reply

def alreadyEstablished (name source : Agent) : String :=
  if key name ≠ key source then
    "sticky session already established with a different name: " ++ name.display ++
      ", received: " ++ source.display
  else "sticky session already established"

def handleStickySessionDiscoveryReply (env : FnfEnvironment) (message : SessionMessage) :
    FnfHandler Unit := do
  let source ← ofAccess message.message.getSource
  traced env message.message.getIncomingConn
  let p ← get
  match p.state.stickySessionStatus with
  | .Discovering => do
      let connection ← ofAccess message.message.getIncomingConn
      set (p.bindTo source connection).drain
      sendAll env p.state.stickyBuffer
  | _ =>
      match p.state.stickyName with
      | some name => throw (.error (.appTransmission (alreadyEstablished name source)))
      | none => return ()

/-! ## Messages -/

/-- A message of a sticky session that has no peer yet. -/
def handleUnbound (env : FnfEnvironment) (message : ProtoMessage) : FnfHandler Unit := do
  let p ← get
  match p.state.stickySessionStatus with
  | .Uninitialized => do
      let (agentType, _) ← ofAccess message.getDst
      startStickySessionDiscovery env agentType
      modify fun p => p.push message
  | .Established => throw (.error (.appTransmission "sticky session already established"))
  | .Discovering => set (p.push message)

def handleMessageToSlim (env : FnfEnvironment) (message : SessionMessage) : FnfHandler Unit := do
  let p ← get
  let message ← ofAccess (message.message.setHeaderType p.state.headerType)
  if p.state.config.sticky then
    match p.state.stickyName with
    | some name => do
        let message ← ofAccess (message.setDestination name)
        let message ← ofAccess (message.setForwardTo p.state.stickyConnection)
        sendMessage env .application message
    | none => handleUnbound env message
  else sendMessage env .application message

/-- A sticky session takes no message from anyone but its peer. -/
def checkSource (message : ProtoMessage) : FnfHandler Unit := do
  let p ← get
  if p.state.config.sticky then
    match p.state.stickyName with
    | some name => do
        let source ← ofAccess message.getSource
        if key name ≠ key source then
          throw (.error (.appTransmission ("message source " ++ source.display ++
            " does not match sticky name " ++ name.display)))
        else return ()
    | none => return ()
  else return ()

def ackMessage (source peer : Agent) (connection : Nat) (sessionId messageId : UInt32) :
    ProtoMessage :=
  ProtoMessage.newPublishWithHeaders
    (some (ProtoSlimHeader.new source peer.agentType (some peer.agentId)
      (some (SlimHeaderFlags.default.withForwardTo connection))))
    (some ⟨SessionHeaderType.fnfAck.toInt, sessionId, messageId⟩) "" []

def acknowledge (env : FnfEnvironment) (message : SessionMessage) (messageId : UInt32) :
    FnfHandler Unit := do
  let source ← ofAccess message.message.getSource
  let connection ← ofAccess message.message.getIncomingConn
  let p ← get
  sendToSlim env .acknowledgement
    (ackMessage p.state.source source connection message.info.id messageId)
  sendToApp env none (.ok message)

/-- What is done with a message by its header type. -/
def dispatch (env : FnfEnvironment) (message : SessionMessage) (messageId : UInt32) :
    SessionHeaderType → FnfHandler Unit
  | .fnf => sendToApp env none (.ok message)
  | .fnfReliable => acknowledge env message messageId
  | .fnfAck => stopAndRemoveTimer messageId
  | .fnfDiscovery => handleStickySessionDiscovery env message
  | .fnfDiscoveryReply => handleStickySessionDiscoveryReply env message
  | other => throw (.error (.appTransmission ("invalid session header " ++ toString other.toInt)))

def expectMessageId (info : Info) : FnfHandler UInt32 :=
  match info.messageId with
  | some messageId => return messageId
  | none => throw .messageIdNotFound

def handleMessageToApp (env : FnfEnvironment) (message : SessionMessage) : FnfHandler Unit := do
  let messageId ← expectMessageId message.info
  traced env message.message.getSource
  checkSource message.message
  let headerType ← ofAccess message.message.getHeaderType
  dispatch env message messageId headerType

end FireAndForgetProcessor

/-! ## The loop -/

inductive FnfEvent where
  | onMessage (message : SessionMessage) (direction : MessageDirection)
  | setConfig (config : FireAndForgetConfiguration)
  | timerTimeout (messageId : UInt32)
  | timerFailure (messageId : UInt32)
  | exit -- the channel is closed, or the session was dropped

namespace FireAndForgetProcessor

def handleMessage (env : FnfEnvironment) (message : SessionMessage) :
    MessageDirection → FnfHandler Unit
  | .North => handleMessageToApp env message
  | .South => handleMessageToSlim env message

def handleEvent (env : FnfEnvironment) : FnfEvent → FnfHandler Unit
  | .onMessage message direction => handleMessage env message direction
  | .setConfig config => modify fun p => { p with state := { p.state with config := config } }
  | .timerTimeout messageId => handleTimerTimeout env messageId
  | .timerFailure messageId => handleTimerFailure env messageId
  | .exit => modify fun p =>
      { p with state := { p.state with timers := HashMap.empty }, running := false }

/-- An error is logged; a panic ends the task. -/
def settle : FnfResult Unit → FireAndForgetProcessor
  | .ok _ p => p
  | .error interruption p => if interruption.isPanic then { p with running := false } else p

def step (env : FnfEnvironment) (p : FireAndForgetProcessor) (event : FnfEvent) :
    FireAndForgetProcessor :=
  if p.running then settle (handleEvent env event p) else p

end FireAndForgetProcessor

end Slim
