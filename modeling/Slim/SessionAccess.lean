import Slim.SessionDispatch
import Slim.FireAndForgetSteps
import Slim.RequestResponse

/-!
# What the sessions read of a message

The handlers of a session take the headers of a message for granted, and some of them its
source and its incoming connection.  Here each handler is given a message that has what it
reads, and a state whose stored messages have what is read of them later.  It then comes to
no accessor that panics, and leaves such a state.
-/

namespace Slim

open HashKey Machine

/-- An agent whose id is not the default one is found in the headers made for it. -/
theorem ProtoSlimHeader.getSource_new {source : Agent} (hid : source.agentId ≠ DEFAULT_AGENT_ID)
    (agentType : AgentType) (agentId : Option UInt64) (flags : Option SlimHeaderFlags) :
    ∃ found, (ProtoSlimHeader.new source agentType agentId flags).getSource = .ok found := by
  simp only [getSource, new, orPanic_some, bind_ok, Agent.ofProto, ProtoAgent.ofAgent, ne_eq, hid,
    not_false_eq_true, if_true]
  exact ⟨_, rfl⟩

theorem ProtoSlimHeader.getSource_new_default {source : Agent}
    (hid : source.agentId = DEFAULT_AGENT_ID) (agentType : AgentType) (agentId : Option UInt64)
    (flags : Option SlimHeaderFlags) :
    (ProtoSlimHeader.new source agentType agentId flags).getSource = .error .agentIdNotFound := by
  simp only [getSource, new, orPanic_some, bind_ok, Agent.ofProto, ProtoAgent.ofAgent, ne_eq, hid,
    not_true_eq_false, if_false]
  rfl

namespace ProtoMessage

/-- The message has its headers, and the id of its source is in them. -/
def Addressed (msg : ProtoMessage) : Prop :=
  ∃ header session source, msg.Headers header session ∧ header.getSource = .ok source

/-- The info can be read off the message. -/
def Informs (msg : ProtoMessage) : Prop := ∃ info, Info.ofMessage msg = .ok info

theorem Addressed.informs {msg : ProtoMessage} (hmsg : msg.Addressed) : msg.Informs := by
  obtain ⟨header, session, source, hheaders, hsource⟩ := hmsg
  obtain ⟨info, hinfo, -⟩ := hheaders.ofMessage hsource
  exact ⟨info, hinfo⟩

theorem Addressed.modifySessionHeader {msg : ProtoMessage} (hmsg : msg.Addressed)
    (f : SessionHeader → SessionHeader) :
    ∃ changed, msg.modifySessionHeader f = .ok changed ∧ changed.Addressed := by
  obtain ⟨header, session, source, hheaders, hsource⟩ := hmsg
  obtain ⟨changed, hchanged, hheaders⟩ := hheaders.modifySessionHeader f
  exact ⟨changed, hchanged, header, f session, source, hheaders, hsource⟩

/-- The destination and the next hop of the message are set, and its source stays. -/
theorem Headers.redirect {msg : ProtoMessage} {header : ProtoSlimHeader} {session : SessionHeader}
    (hheaders : msg.Headers header session) (name : Agent) (connection : Option Nat) :
    ∃ renamed changed left, msg.setDestination name = .ok renamed ∧
      renamed.setForwardTo connection = .ok changed ∧ changed.Headers left session ∧
      left.getSource = header.getSource := by
  obtain ⟨renamed, hrenamed, hheaders⟩ := hheaders.modifySlimHeader fun header =>
    { header with destination := some (ProtoAgent.ofAgent name) }
  obtain ⟨changed, hchanged, hheaders⟩ := hheaders.modifySlimHeader fun header =>
    { header with forwardTo := connection }
  exact ⟨renamed, changed, _, hrenamed, hchanged, hheaders, rfl⟩

theorem Addressed.redirect {msg : ProtoMessage} (hmsg : msg.Addressed) (name : Agent)
    (connection : Option Nat) :
    ∃ renamed changed, msg.setDestination name = .ok renamed ∧
      renamed.setForwardTo connection = .ok changed ∧ changed.Addressed := by
  obtain ⟨header, session, source, hheaders, hsource⟩ := hmsg
  obtain ⟨renamed, changed, left, hrenamed, hchanged, hheaders, hleft⟩ :=
    hheaders.redirect name connection
  exact ⟨renamed, changed, hrenamed, hchanged, left, session, source, hheaders, hleft.trans hsource⟩

theorem addressed_newPublish {source : Agent} (hid : source.agentId ≠ DEFAULT_AGENT_ID)
    (agentType : AgentType) (agentId : Option UInt64) (flags : Option SlimHeaderFlags)
    (contentType : String) (blob : List UInt8) :
    (newPublish source agentType agentId flags contentType blob).Addressed := by
  obtain ⟨found, hfound⟩ := ProtoSlimHeader.getSource_new hid agentType agentId flags
  exact ⟨_, _, found, ⟨rfl, rfl⟩, hfound⟩

end ProtoMessage

/-! ## Streaming -/

/-- The task comes to no accessor that panics, though its arithmetic may stop it. -/
inductive Survives {σ : Type} (I : σ → Prop) : Except StreamPanic (Effects × σ) → Prop
  | stopped (panic : Panic) : Survives I (.error (.arithmetic panic))
  | continues {effects : Effects} {next : σ} (hnext : I next) : Survives I (.ok (effects, next))

open StreamPanic

theorem ofAccess_bind_ok {α β : Type} {computation : Except AccessPanic α} {value : α}
    (hvalue : computation = .ok value) (next : α → Except StreamPanic β) :
    (ofAccess computation >>= next) = next value := by
  rw [hvalue]
  rfl

theorem survives_ofArithmetic {σ α : Type} {I : σ → Prop} {computation : Except Panic α}
    {next : α → Except StreamPanic (Effects × σ)}
    (hnext : ∀ value, computation = .ok value → Survives I (next value)) :
    Survives I (ofArithmetic computation >>= next) := by
  cases computation with
  | error panic => exact .stopped panic
  | ok value => exact hnext value rfl

theorem Survives.mapped {σ τ : Type} {I : σ → Prop} {J : τ → Prop}
    {result : Except StreamPanic (Effects × σ)} (hresult : Survives I result) {build : σ → τ}
    (hbuild : ∀ next, I next → J (build next)) :
    Survives J (result >>= fun done => return (done.1, build done.2)) := by
  cases hresult with
  | stopped panic => exact .stopped panic
  | continues hnext => exact .continues (hbuild _ hnext)

section Streaming

variable {ctx : StreamContext} {msg : ProtoMessage} {header : ProtoSlimHeader}
  {session : SessionHeader}

theorem exists_bufferCall (hheaders : msg.Headers header session) :
    ∃ call, msg.bufferCall = .ok call := by
  rw [ProtoMessage.bufferCall, hheaders.getHeaderType, bind_ok, hheaders.getMessageId, bind_ok]
  rcases (SessionHeaderType.tryFrom session.headerType).getD .unspecified
  case rtxReply =>
    rw [hheaders.getError]
    exact ⟨_, rfl⟩
  all_goals exact ⟨_, rfl⟩

/-- What a buffer releases can be given to the application. -/
theorem exists_sendMessageToApp (sessionId : UInt32) {messages : List (Option ProtoMessage)}
    (hmessages : Only ProtoMessage.Informs messages) :
    ∃ items, sendMessageToApp sessionId messages = .ok items := by
  induction messages with
  | nil => exact ⟨[], rfl⟩
  | cons message messages ih =>
      obtain ⟨items, hitems⟩ := ih fun m hm => hmessages m (List.mem_cons_of_mem _ hm)
      cases message with
      | none =>
          rw [sendMessageToApp, hitems]
          exact ⟨_, rfl⟩
      | some m =>
          obtain ⟨info, hinfo⟩ := hmessages m List.mem_cons_self
          rw [sendMessageToApp, hinfo, bind_ok, hitems]
          exact ⟨_, rfl⟩

namespace ReceiverState

/-- The messages that wait in the buffers have their source. -/
def Ready (state : ReceiverState) : Prop :=
  ∀ name, Only ProtoMessage.Informs (state.bufferOf name).buffer

theorem ready_new : ReceiverState.new.Ready := by
  intro name m hm
  cases hm

theorem Ready.put {state : ReceiverState} (hs : state.Ready) (name : Agent) {receiver : Receiver}
    (hreceiver : Only ProtoMessage.Informs receiver.buffer.buffer) :
    (state.put name receiver).Ready := by
  intro other
  by_cases hsame : key name = key other
  · rw [bufferOf_put_same state receiver hsame]
    exact hreceiver
  · rw [bufferOf_put_other state receiver hsame]
    exact hs other

theorem Ready.processMessageFromSlim {state : ReceiverState} (hs : state.Ready)
    (ctx : StreamContext) (hheaders : msg.Headers header session) {source : Agent}
    (hsource : header.getSource = .ok source) {connection : Nat}
    (hconnection : header.incomingConn = some connection) :
    Survives Ready (state.processMessageFromSlim ctx msg) := by
  obtain ⟨call, hcall⟩ := exists_bufferCall hheaders
  have hincoming : msg.getIncomingConn = .ok connection := by
    rw [hheaders.getIncomingConn, hconnection, orPanic_some]
  unfold ReceiverState.processMessageFromSlim
  rw [ofAccess_bind_ok (hheaders.getSource.trans hsource), ofAccess_bind_ok hincoming,
    ofAccess_bind_ok hheaders.getHeaderType, ofAccess_bind_ok hheaders.getMessageId,
    ofAccess_bind_ok hcall]
  cases call with
  | none => exact .continues (hs.put source (hs source))
  | some call =>
      refine survives_ofArithmetic ?_
      rintro ⟨⟨recv, rtx⟩, buffer⟩ hhandle
      have hbrings : ∀ m, call = .received m → m.Informs := by
        rintro m rfl
        rw [(ProtoMessage.isStreamed_of_bufferCall hcall).1]
        exact ProtoMessage.Addressed.informs ⟨header, session, source, hheaders, hsource⟩
      obtain ⟨hrecv, hbuffer⟩ := ReceiverBuffer.only_handle (hs source) hbrings hhandle
      obtain ⟨items, hitems⟩ := exists_sendMessageToApp ctx.sessionId hrecv
      dsimp only
      rw [ofAccess_bind_ok hitems]
      refine .continues (hs.put source ?_)
      rw [Receiver.buffer_foldl_track, Receiver.buffer_cleanAfter]
      exact hbuffer

/-- Without its connection or the id of its source a message does not get far. -/
theorem processMessageFromSlim_panics (ctx : StreamContext) (state : ReceiverState)
    (hheaders : msg.Headers header session)
    (hmissing : header.incomingConn = none ∨ ∃ panic, header.getSource = .error panic) :
    ∃ panic, state.processMessageFromSlim ctx msg = .error (.access panic) := by
  unfold ReceiverState.processMessageFromSlim
  rw [hheaders.getSource, hheaders.getIncomingConn]
  rcases hsource : header.getSource with panic | source
  · exact ⟨panic, rfl⟩
  · rcases hmissing with hconnection | ⟨panic, hpanic⟩
    · rw [hconnection]
      exact ⟨.unwrapNone, rfl⟩
    · rw [hpanic] at hsource
      cases hsource

theorem Ready.handleRtxTimeout {state : ReceiverState} (hs : state.Ready) (producerName : Agent)
    (msgId : UInt32) : (state.handleRtxTimeout producerName msgId).2.Ready := by
  unfold ReceiverState.handleRtxTimeout
  split
  next => exact hs
  next receiver hreceiver =>
    split
    next => exact hs
    next =>
      split
      next => exact hs
      next =>
        refine hs.put producerName ?_
        have hbuffer := hs producerName
        rw [bufferOf, receiverFor_of_get state hreceiver] at hbuffer
        exact hbuffer

theorem Ready.handleRtxFailure {state : ReceiverState} (hs : state.Ready) (producerName : Agent)
    (msgId : UInt32) : Survives Ready (state.handleRtxFailure ctx producerName msgId) := by
  unfold ReceiverState.handleRtxFailure
  split
  next => exact .continues hs
  next receiver hreceiver =>
    have hbuffer := hs producerName
    rw [bufferOf, receiverFor_of_get state hreceiver] at hbuffer
    refine survives_ofArithmetic ?_
    rintro ⟨recv, buffer⟩ hlost
    obtain ⟨hrecv, hleft⟩ := ReceiverBuffer.only_onLostMessage
      (s := (receiver.forget msgId).buffer) hbuffer hlost
    obtain ⟨items, hitems⟩ := exists_sendMessageToApp ctx.sessionId hrecv
    dsimp only
    rw [ofAccess_bind_ok hitems]
    exact .continues (hs.put producerName hleft)

theorem Ready.onRtxTimer {state : ReceiverState} (hs : state.Ready) (ctx : StreamContext)
    (producerName : Agent) (msgId : UInt32) (retry : Bool) :
    Survives Ready (state.onRtxTimer ctx producerName msgId retry) := by
  unfold ReceiverState.onRtxTimer
  split
  next => exact .continues (hs.handleRtxTimeout producerName msgId)
  next => exact hs.handleRtxFailure producerName msgId

end ReceiverState

namespace ProducerState

/-- The messages in the buffer are publications, so that their payload can be read. -/
theorem exists_rtxReply (ctx : StreamContext) (producer : ProducerState)
    (hheaders : msg.Headers header session) {source : Agent}
    (hsource : header.getSource = .ok source) {connection : Nat}
    (hconnection : header.incomingConn = some connection) :
    ∃ reply, producer.processIncomingRtxRequest ctx msg = .ok reply := by
  rw [processIncomingRtxRequest, hheaders.getMessageId, bind_ok, hheaders.getSource, hsource,
    bind_ok, hheaders.getIncomingConn, hconnection, orPanic_some, bind_ok]
  rcases hget : producer.buffer.get session.messageId.toNat with _ | packet
  · exact ⟨_, rfl⟩
  · have hpayload := packet.getPayload_of_getMessageId (ProducerBuffer.get_eq_some hget).1
    dsimp only
    rw [hpayload]
    exact ⟨_, rfl⟩

variable [NameHash]

/-- A message of the application needs no source. -/
theorem survives_processMessageFromApp (ctx : StreamContext) (producer : ProducerState)
    (isBidirectional slimClosed : Bool) (hheaders : msg.Headers header session)
    {name : AgentType × Option UInt64} (hdst : header.getDst = .ok name) :
    Survives (fun _ => True)
      (producer.processMessageFromApp ctx isBidirectional msg slimClosed) := by
  obtain ⟨stamped, hstamp, hstampedHeaders⟩ := producer.exists_stamp isBidirectional hheaders
  obtain ⟨left, hleft⟩ := producer.buffer.push_returns ⟨name, hstampedHeaders.getName hdst⟩
    hstampedHeaders.getMessageId
  rw [processMessageFromApp, ofAccess_bind_ok hstamp, ofAccess_bind_ok hleft]
  exact survives_ofArithmetic fun _ _ => .continues trivial

end ProducerState

/-! ### Endpoints -/

namespace Endpoint

/-- The direction that the endpoint was made for. -/
def direction : Endpoint → SessionDirection
  | producer _ => .Sender
  | receiver _ => .Receiver
  | bidirectional _ _ => .Bidirectional

/-- An endpoint of the given direction whose buffered messages have their source. -/
structure Ready (wanted : SessionDirection) (endpoint : Endpoint) : Prop where
  direction : endpoint.direction = wanted
  receiver : ∀ state ∈ endpoint.receiver?, state.Ready

theorem ready_new (wanted : SessionDirection) : (Endpoint.new wanted).Ready wanted := by
  cases wanted with
  | Sender => exact ⟨rfl, by rintro _ ⟨⟩⟩
  | Receiver =>
      refine ⟨rfl, ?_⟩
      rintro _ ⟨⟩
      exact ReceiverState.ready_new
  | Bidirectional =>
      refine ⟨rfl, ?_⟩
      rintro _ ⟨⟩
      exact ReceiverState.ready_new

theorem ready_producer (prod : ProducerState) : (producer prod).Ready .Sender :=
  ⟨rfl, by rintro _ ⟨⟩⟩

theorem ready_receiver {recv : ReceiverState} (hrecv : recv.Ready) :
    (receiver recv).Ready .Receiver := by
  refine ⟨rfl, ?_⟩
  rintro _ ⟨⟩
  exact hrecv

theorem ready_bidirectional {recv : ReceiverState} (hrecv : recv.Ready) (prod : ProducerState) :
    (bidirectional recv prod).Ready .Bidirectional := by
  refine ⟨rfl, ?_⟩
  rintro _ ⟨⟩
  exact hrecv

variable {wanted : SessionDirection} {endpoint : Endpoint}

theorem Ready.rtxTimer (hs : endpoint.Ready wanted) (msgId : UInt32) (retry : Bool)
    (producerName : Agent) :
    Survives (Ready wanted) (endpoint.onRtxTimer ctx msgId retry producerName) := by
  obtain ⟨rfl, hreceiver⟩ := hs
  cases endpoint with
  | producer prod => exact .continues (ready_producer prod)
  | receiver recv =>
      have hrecv := (hreceiver recv rfl).onRtxTimer ctx producerName msgId retry
      exact hrecv.mapped fun next hnext => ready_receiver hnext
  | bidirectional recv prod =>
      have hrecv := (hreceiver recv rfl).onRtxTimer ctx producerName msgId retry
      exact hrecv.mapped fun next hnext => ready_bidirectional hnext prod

theorem Ready.producerTimer (hs : endpoint.Ready wanted) :
    Survives (Ready wanted) (endpoint.onProducerTimer ctx) := by
  obtain ⟨rfl, hreceiver⟩ := hs
  cases endpoint with
  | producer prod =>
      rw [onProducerTimer, ProducerState.onTimer]
      rcases ctx.build.pred32 prod.nextId with panic | lastMsgId
      · exact .stopped panic
      · exact .continues (ready_producer prod)
  | receiver recv => exact .continues (ready_receiver (hreceiver recv rfl))
  | bidirectional recv prod =>
      rw [onProducerTimer, ProducerState.onTimer]
      rcases ctx.build.pred32 prod.nextId with panic | lastMsgId
      · exact .stopped panic
      · exact .continues (ready_bidirectional (hreceiver recv rfl) prod)

variable [NameHash]

/-- A message of the network. -/
theorem Ready.north (hs : endpoint.Ready wanted) (slimClosed : Bool)
    (hheaders : msg.Headers header session) {source : Agent}
    (hsource : header.getSource = .ok source) {connection : Nat}
    (hconnection : header.incomingConn = some connection) :
    Survives (Ready wanted) (endpoint.onMessage ctx msg slimClosed .North) := by
  obtain ⟨rfl, hreceiver⟩ := hs
  cases endpoint with
  | producer prod =>
      obtain ⟨reply, hreply⟩ := prod.exists_rtxReply ctx hheaders hsource hconnection
      rw [onMessage, ofAccess_bind_ok hheaders.getHeaderType]
      split
      next =>
        rw [ofAccess_bind_ok hreply]
        exact .continues (ready_producer prod)
      next => exact .continues (ready_producer prod)
  | receiver recv =>
      have hrecv := (hreceiver recv rfl).processMessageFromSlim ctx hheaders hsource
        hconnection
      exact hrecv.mapped fun next hnext => ready_receiver hnext
  | bidirectional recv prod =>
      obtain ⟨reply, hreply⟩ := prod.exists_rtxReply ctx hheaders hsource hconnection
      rw [onMessage, ofAccess_bind_ok hheaders.getHeaderType]
      split
      next =>
        rw [ofAccess_bind_ok hreply]
        exact .continues (ready_bidirectional (hreceiver recv rfl) prod)
      next =>
        have hrecv := (hreceiver recv rfl).processMessageFromSlim ctx hheaders hsource
          hconnection
        exact hrecv.mapped fun next hnext => ready_bidirectional hnext prod

/-- A message of the application.  A receiver reads its source and its connection too. -/
theorem Ready.south (hs : endpoint.Ready wanted) (slimClosed : Bool)
    (hheaders : msg.Headers header session) {name : AgentType × Option UInt64}
    (hdst : header.getDst = .ok name)
    (hsuits : wanted = .Receiver → (∃ source, header.getSource = .ok source) ∧
      header.incomingConn.isSome = true) :
    Survives (Ready wanted) (endpoint.onMessage ctx msg slimClosed .South) := by
  obtain ⟨rfl, hreceiver⟩ := hs
  cases endpoint with
  | producer prod =>
      have hprod := prod.survives_processMessageFromApp ctx false slimClosed hheaders hdst
      exact hprod.mapped fun next _ => ready_producer next
  | receiver recv =>
      obtain ⟨⟨source, hsource⟩, hsome⟩ := hsuits rfl
      obtain ⟨connection, hconnection⟩ := Option.isSome_iff_exists.1 hsome
      have hrecv := (hreceiver recv rfl).processMessageFromSlim ctx hheaders hsource
        hconnection
      exact hrecv.mapped fun next hnext => ready_receiver hnext
  | bidirectional recv prod =>
      have hprod := prod.survives_processMessageFromApp ctx true slimClosed hheaders hdst
      exact hprod.mapped fun next _ => ready_bidirectional (hreceiver recv rfl) next

end Endpoint

end Streaming

/-! ## Fire and forget -/

namespace FireAndForgetProcessor

/-- A handler has not panicked, and leaves a processor with the property. -/
def Fine {α : Type} (I : FireAndForgetProcessor → Prop) : FnfResult α → Prop
  | .ok _ p => I p
  | .error interruption p => interruption.isPanic = false ∧ I p

section Rules

variable {env : FnfEnvironment} {p : FireAndForgetProcessor} {I : FireAndForgetProcessor → Prop}

theorem fine_bind {α β : Type} {first : FnfHandler α} {second : α → FnfHandler β}
    (hfirst : Fine I (first p)) (hsecond : ∀ value left, I left → Fine I (second value left)) :
    Fine I ((first >>= second) p) := by
  refine bind_rule (R := Fine I) hfirst ?_ ?_
  · intro value left hleft
    exact hsecond value left hleft
  · intro interruption left hleft
    exact hleft

theorem fine_ofAccess {α β : Type} {computation : Except AccessPanic α} {value : α}
    (hvalue : computation = .ok value) {next : α → FnfHandler β} (hnext : Fine I (next value p)) :
    Fine I ((ofAccess computation >>= next) p) := by
  rw [hvalue]
  exact hnext

theorem fine_traced {α β : Type} {computation : Except AccessPanic α} {value : α}
    (hvalue : computation = .ok value) {next : Unit → FnfHandler β} (hnext : Fine I (next () p)) :
    Fine I ((traced env computation >>= next) p) := by
  refine traced_rule hnext ?_
  intro panic _ hpanic
  rw [hvalue] at hpanic
  cases hpanic

/-- What the channels do is not looked at. -/
def StateOnly (I : FireAndForgetProcessor → Prop) : Prop :=
  ∀ p q : FireAndForgetProcessor, q.state = p.state → I p → I q

theorem fine_sendToSlim (hI : StateOnly I) (hp : I p) (origin : SlimOrigin)
    (message : ProtoMessage) : Fine I (sendToSlim env origin message p) := by
  unfold sendToSlim
  split
  next => exact ⟨rfl, hI p _ rfl hp⟩
  next => exact hI p _ rfl hp

theorem fine_sendToApp (hI : StateOnly I) (hp : I p) (call : Option Nat)
    (item : Except SessionError SessionMessage) : Fine I (sendToApp env call item p) := by
  unfold sendToApp
  split
  next => exact ⟨rfl, hI p _ rfl hp⟩
  next => exact hI p _ rfl hp

theorem fine_ignoreError {handler : FnfHandler Unit} (hfine : Fine I (handler p)) :
    Fine I (ignoreError handler p) := by
  unfold ignoreError
  rcases hresult : handler p with ⟨value, left⟩ | ⟨interruption, left⟩
  · rw [hresult] at hfine
    exact hfine
  · rw [hresult] at hfine
    exact hfine.2

end Rules

/-- The session of this agent keeps only messages with a source, for the time when there is a
    peer and for the time when a timer gives up. -/
structure Ready (agent : Agent) (p : FireAndForgetProcessor) : Prop where
  source : p.state.source = agent
  timers : ∀ messageId entry, p.state.timers.get? messageId = some entry → entry.2.Informs
  buffer : ∀ message ∈ p.state.stickyBuffer, message.Addressed

theorem stateOnly_ready (agent : Agent) : StateOnly (Ready agent) := by
  intro p q hstate hp
  constructor
  · rw [hstate]
    exact hp.source
  · rw [hstate]
    exact hp.timers
  · rw [hstate]
    exact hp.buffer

theorem ready_new (sessionId : UInt32) (source : Agent) (config : FireAndForgetConfiguration) :
    (FireAndForgetProcessor.new sessionId source config).Ready source where
  source := rfl
  timers := by
    intro messageId entry hentry
    cases hentry
  buffer := List.forall_mem_nil _

section Ready

variable {env : FnfEnvironment} {agent source : Agent} {p : FireAndForgetProcessor}
  {message : ProtoMessage} {header : ProtoSlimHeader} {session : SessionHeader} {connection : Nat}

theorem Ready.removeTimer (hs : p.Ready agent) (messageId : UInt32) :
    (p.removeTimer messageId).Ready agent where
  source := hs.source
  timers := by
    intro other entry hentry
    simp only [FireAndForgetProcessor.removeTimer] at hentry
    rw [HashMap.get?_remove] at hentry
    split at hentry
    next => cases hentry
    next => exact hs.timers other entry hentry
  buffer := hs.buffer

theorem Ready.record (hs : p.Ready agent) (origin : SlimOrigin) (messageId : UInt32)
    (hmessage : message.Informs) :
    (p.record origin messageId message).Ready agent := by
  unfold FireAndForgetProcessor.record FireAndForgetState.startTimer
  split
  next =>
    refine ⟨hs.source, ?_, hs.buffer⟩
    intro other entry hentry
    dsimp only at hentry
    rw [HashMap.get?_insert] at hentry
    split at hentry
    next =>
      cases hentry
      exact hmessage
    next => exact hs.timers other entry hentry
  next => exact ⟨hs.source, hs.timers, hs.buffer⟩

theorem Ready.bindTo (hs : p.Ready agent) (name : Agent) (connection : Nat) :
    (p.bindTo name connection).Ready agent := ⟨hs.source, hs.timers, hs.buffer⟩

theorem Ready.drain (hs : p.Ready agent) : p.drain.Ready agent :=
  ⟨hs.source, hs.timers, List.forall_mem_nil _⟩

theorem Ready.setStatus (hs : p.Ready agent) (status : StickySessionStatus) :
    (p.setStatus status).Ready agent := ⟨hs.source, hs.timers, hs.buffer⟩

theorem Ready.push (hs : p.Ready agent) (hmessage : message.Addressed) :
    (p.push message).Ready agent := by
  refine ⟨hs.source, hs.timers, ?_⟩
  intro found hfound
  rcases List.mem_append.1 hfound with hfound | hfound
  · exact hs.buffer found hfound
  · rw [List.mem_singleton.1 hfound]
    exact hmessage

theorem exists_stampMessage (state : FireAndForgetState) (hheaders : message.Headers header session)
    (messageId : UInt32) :
    ∃ stamped left numbers, state.stampMessage message messageId = .ok stamped ∧
      stamped.Headers left numbers ∧ left.getSource = header.getSource := by
  obtain ⟨numbered, hnumbered, hheaders⟩ := hheaders.modifySessionHeader fun header =>
    { header with messageId := messageId, sessionId := state.sessionId }
  rw [FireAndForgetState.stampMessage, hnumbered, bind_ok]
  rcases state.stickyName with _ | name
  · exact ⟨numbered, header, _, rfl, hheaders, rfl⟩
  · obtain ⟨renamed, changed, left, hrenamed, hchanged, hheaders, hleft⟩ :=
      hheaders.redirect name state.stickyConnection
    dsimp only
    rw [hrenamed, bind_ok, hchanged]
    exact ⟨changed, left, _, rfl, hheaders, hleft⟩

/-- With `debug!` a message without the id of its source is not sent. -/
theorem sendMessage_panics (hdebug : env.debug = true) (origin : SlimOrigin)
    (hheaders : message.Headers header session) {panic : AccessPanic}
    (hsource : header.getSource = .error panic) :
    ∃ left, sendMessage env origin message p = .error (.panic panic) left := by
  obtain ⟨stamped, left, numbers, hstamp, hstamped, hleft⟩ :=
    exists_stampMessage p.state hheaders (env.draw p.sent.length)
  have hnone : stamped.getSource = .error panic := hstamped.getSource.trans (hleft.trans hsource)
  refine ofAccess_rule (Q := fun result => ∃ left, result = .error (.panic panic) left) ?_ ?_
  · intro found hfound
    rw [hstamp] at hfound
    cases hfound
    refine ⟨recorded env p origin stamped, ?_⟩
    have htraced : (traced env stamped.getSource >>= fun _ => sendToSlim env origin stamped)
        (recorded env p origin stamped) =
          .error (.panic panic) (recorded env p origin stamped) := by
      rw [traced, if_pos hdebug, hnone]
      rfl
    exact htraced
  · intro other hother
    rw [hstamp] at hother
    cases hother

theorem Ready.sendMessage (hs : p.Ready agent) (origin : SlimOrigin)
    (hmessage : message.Addressed) : Fine (Ready agent) (sendMessage env origin message p) := by
  obtain ⟨header, session, source, hheaders, hsource⟩ := hmessage
  obtain ⟨stamped, left, numbers, hstamp, hstamped, hleft⟩ :=
    exists_stampMessage p.state hheaders (env.draw p.sent.length)
  have haddressed : stamped.Addressed := ⟨left, numbers, source, hstamped, hleft.trans hsource⟩
  refine fine_ofAccess hstamp ?_
  refine fine_traced (p := recorded env p origin stamped)
    (hstamped.getSource.trans (hleft.trans hsource)) ?_
  exact fine_sendToSlim (stateOnly_ready agent) (hs.record origin _ haddressed.informs) origin
    stamped

theorem Ready.sendAll : ∀ {messages : List ProtoMessage} {p : FireAndForgetProcessor},
    p.Ready agent → (∀ message ∈ messages, message.Addressed) →
      Fine (Ready agent) (sendAll env messages p) := by
  intro messages
  induction messages with
  | nil => exact fun hs _ => hs
  | cons message messages ih =>
      intro p hs hmessages
      refine fine_bind (hs.sendMessage .buffer (hmessages message List.mem_cons_self)) ?_
      intro _ left hleft
      exact ih hleft fun other hother => hmessages other (List.mem_cons_of_mem _ hother)

/-! ### Messages of the application -/

theorem Ready.startDiscovery (hs : p.Ready agent) (agentType : AgentType) :
    Fine (Ready agent) (startStickySessionDiscovery env agentType p) := by
  have hready := hs.setStatus .Discovering
  exact fine_sendToSlim (p := p.setStatus .Discovering) (stateOnly_ready agent) hready .probe _

theorem Ready.handleUnbound (hs : p.Ready agent) (hmessage : message.Addressed)
    {name : AgentType × Option UInt64}
    (hdst : message.getDst = .ok name) : Fine (Ready agent) (handleUnbound env message p) := by
  unfold FireAndForgetProcessor.handleUnbound
  rw [get_rule]
  rcases p.state.stickySessionStatus
  · refine fine_ofAccess hdst (fine_bind (hs.startDiscovery name.1) ?_)
    intro _ left hleft
    exact hleft.push hmessage
  · exact hs.push hmessage
  · exact ⟨rfl, hs⟩

theorem Ready.handleMessageToSlim (hs : p.Ready agent) {message : SessionMessage}
    (hheaders : message.message.Headers header session) (hsource : header.getSource = .ok source)
    {name : AgentType × Option UInt64}
    (hdst : header.getDst = .ok name) : Fine (Ready agent) (handleMessageToSlim env message p) := by
  obtain ⟨typed, htyped, htypedHeaders⟩ := hheaders.modifySessionHeader fun session =>
    { session with headerType := p.state.headerType.toInt }
  have haddressed : typed.Addressed := ⟨header, _, source, htypedHeaders, hsource⟩
  unfold FireAndForgetProcessor.handleMessageToSlim
  rw [get_rule]
  refine fine_ofAccess htyped ?_
  split
  next =>
    rcases p.state.stickyName with _ | peer
    · exact hs.handleUnbound haddressed (htypedHeaders.getDst.trans hdst)
    · obtain ⟨renamed, changed, hrenamed, hchanged, haddressed⟩ :=
        haddressed.redirect peer p.state.stickyConnection
      exact fine_ofAccess hrenamed (fine_ofAccess hchanged (hs.sendMessage .application haddressed))
  next => exact hs.sendMessage .application haddressed

/-- The same for a message of the application, where nothing else is done with it first. -/
theorem handleMessageToSlim_panics (hdebug : env.debug = true)
    (hsticky : p.state.config.sticky = false) {message : SessionMessage}
    (hheaders : message.message.Headers header session) {panic : AccessPanic}
    (hsource : header.getSource = .error panic) :
    ∃ left, handleMessageToSlim env message p = .error (.panic panic) left := by
  obtain ⟨typed, htyped, htypedHeaders⟩ := hheaders.modifySessionHeader fun session =>
    { session with headerType := p.state.headerType.toInt }
  unfold FireAndForgetProcessor.handleMessageToSlim
  rw [get_rule, ProtoMessage.setHeaderType, htyped]
  have hunbound : ∀ first : FnfHandler Unit, (if p.state.config.sticky then first
      else sendMessage env .application typed) = sendMessage env .application typed := by
    intro first
    rw [hsticky]
    rfl
  obtain ⟨left, hleft⟩ := sendMessage_panics (p := p) hdebug .application htypedHeaders hsource
  refine ⟨left, ?_⟩
  rw [← hleft]
  exact congrFun (hunbound _) p

/-! ### Messages of the network -/

theorem Ready.checkSource (hs : p.Ready agent)
    (hsource : message.getSource = .ok source) : Fine (Ready agent) (checkSource message p) := by
  unfold FireAndForgetProcessor.checkSource
  rw [get_rule]
  split
  next =>
    rcases p.state.stickyName with _ | name
    · exact hs
    · refine fine_ofAccess hsource ?_
      split
      next => exact ⟨rfl, hs⟩
      next => exact hs
  next => exact hs

theorem Ready.acknowledge (hs : p.Ready agent) {message : SessionMessage} (messageId : UInt32)
    (hsource : message.message.getSource = .ok source)
    (hconnection : message.message.getIncomingConn = .ok connection) :
    Fine (Ready agent) (acknowledge env message messageId p) := by
  refine fine_ofAccess hsource (fine_ofAccess hconnection ?_)
  rw [get_rule]
  refine fine_bind (fine_sendToSlim (stateOnly_ready agent) hs _ _) ?_
  intro _ left hleft
  exact fine_sendToApp (stateOnly_ready agent) hleft none _

theorem Ready.stopAndRemoveTimer (hs : p.Ready agent) (messageId : UInt32) :
    Fine (Ready agent) (stopAndRemoveTimer messageId p) := by
  unfold FireAndForgetProcessor.stopAndRemoveTimer
  rw [get_rule]
  rcases p.state.timers.get? messageId with _ | ⟨timer, message⟩
  · exact ⟨rfl, hs⟩
  · have hremoved := hs.removeTimer messageId
    exact ⟨hremoved.source, hremoved.timers, hremoved.buffer⟩

/-- The reply comes from the agent of the session, which must have an id. -/
theorem Ready.handleDiscovery (hs : p.Ready agent) (hagent : agent.agentId ≠ DEFAULT_AGENT_ID)
    {message : SessionMessage} (hsource : message.message.getSource = .ok source)
    (hconnection : message.message.getIncomingConn = .ok connection) :
    Fine (Ready agent) (handleStickySessionDiscovery env message p) := by
  have hid : p.state.source.agentId ≠ DEFAULT_AGENT_ID := by
    rw [hs.source]
    exact hagent
  have hreply : (discoveryReply p.state.source source connection).Addressed :=
    ProtoMessage.addressed_newPublish hid _ _ _ _ _
  obtain ⟨reply, htyped, haddressed⟩ := hreply.modifySessionHeader fun session =>
    { session with headerType := SessionHeaderType.fnfDiscoveryReply.toInt }
  refine fine_ofAccess hsource (fine_ofAccess hconnection ?_)
  rw [get_rule]
  refine fine_ofAccess htyped ?_
  exact (hs.bindTo source connection).sendMessage .discoveryReply haddressed

theorem Ready.handleDiscoveryReply (hs : p.Ready agent) {message : SessionMessage}
    (hsource : message.message.getSource = .ok source)
    (hconnection : message.message.getIncomingConn = .ok connection) :
    Fine (Ready agent) (handleStickySessionDiscoveryReply env message p) := by
  refine fine_ofAccess hsource (fine_traced hconnection ?_)
  rw [get_rule]
  rcases p.state.stickySessionStatus
  · rcases p.state.stickyName with _ | name
    · exact hs
    · exact ⟨rfl, hs⟩
  · refine fine_ofAccess hconnection ?_
    exact (hs.bindTo source connection).drain.sendAll hs.buffer
  · rcases p.state.stickyName with _ | name
    · exact hs
    · exact ⟨rfl, hs⟩

theorem Ready.handleMessageToApp (hs : p.Ready agent) (hagent : agent.agentId ≠ DEFAULT_AGENT_ID)
    {message : SessionMessage} (hheaders : message.message.Headers header session)
    (hsource : header.getSource = .ok source) (hconnection : header.incomingConn = some connection)
    {messageId : UInt32} (hid : message.info.messageId = some messageId) :
    Fine (Ready agent) (handleMessageToApp env message p) := by
  have hfrom : message.message.getSource = .ok source := hheaders.getSource.trans hsource
  have hincoming : message.message.getIncomingConn = .ok connection := by
    rw [hheaders.getIncomingConn, hconnection, orPanic_some]
  unfold FireAndForgetProcessor.handleMessageToApp expectMessageId
  rw [hid]
  refine fine_traced hfrom (fine_bind (hs.checkSource hfrom) ?_)
  intro _ left hleft
  refine fine_ofAccess hheaders.getHeaderType ?_
  rcases (SessionHeaderType.tryFrom session.headerType).getD .unspecified
  case fnf => exact fine_sendToApp (stateOnly_ready agent) hleft none _
  case fnfReliable => exact hleft.acknowledge messageId hfrom hincoming
  case fnfAck => exact hleft.stopAndRemoveTimer messageId
  case fnfDiscovery => exact hleft.handleDiscovery hagent hfrom hincoming
  case fnfDiscoveryReply => exact hleft.handleDiscoveryReply hfrom hincoming
  all_goals exact ⟨rfl, hleft⟩

/-! ### Timers -/

theorem Ready.handleTimerTimeout (hs : p.Ready agent) (messageId : UInt32) :
    Fine (Ready agent) (handleTimerTimeout env messageId p) := by
  unfold FireAndForgetProcessor.handleTimerTimeout
  rw [get_rule]
  rcases p.state.timers.get? messageId with _ | ⟨timer, message⟩
  · exact hs
  · exact fine_ignoreError (fine_sendToSlim (stateOnly_ready agent) hs _ message)

/-- The message that was stored still has its source. -/
theorem Ready.handleTimerFailure (hs : p.Ready agent) (messageId : UInt32) :
    Fine (Ready agent) (handleTimerFailure env messageId p) := by
  unfold FireAndForgetProcessor.handleTimerFailure
  rw [get_rule]
  rcases hstored : p.state.timers.get? messageId with _ | ⟨timer, message⟩
  · exact hs
  · obtain ⟨info, hinfo⟩ := hs.timers messageId _ hstored
    have hremoved := hs.removeTimer messageId
    refine fine_ofAccess (p := p.removeTimer messageId) hinfo ?_
    exact fine_ignoreError (fine_sendToApp (stateOnly_ready agent) hremoved _ _)

end Ready

end FireAndForgetProcessor

/-! ## Requests and replies -/

namespace RequestResponse

variable {s : RequestResponse} {message : SessionMessage} {header : ProtoSlimHeader}
  {session : SessionHeader}

theorem exists_onMessageSouth (hheaders : message.message.Headers header session) (i : Nat)
    (draw : UInt32) (sendError : Option String) :
    ∃ result, s.onMessageSouth i message draw sendError = .ok result := by
  obtain ⟨request, hrequest, -⟩ := hheaders.modifySessionHeader fun header =>
    { header with
      sessionId := s.common.id
      messageId := draw
      headerType := SessionHeaderType.request.toInt }
  have hprepared : ∃ prepared, s.prepareRequest message draw = .ok prepared := by
    rw [prepareRequest, hrequest]
    exact ⟨_, rfl⟩
  obtain ⟨prepared, hprepared⟩ := hprepared
  rw [onMessageSouth, hheaders.session, bind_ok]
  split
  next =>
    rcases message.info.messageId with _ | messageId
    · exact ⟨_, rfl⟩
    · obtain ⟨reply, hreply, -⟩ := hheaders.modifySessionHeader fun header =>
        { header with
          sessionId := s.common.id
          messageId := messageId
          headerType := SessionHeaderType.reply.toInt }
      dsimp only
      rw [prepareReply, hreply]
      exact ⟨_, rfl⟩
  next =>
    rw [hprepared, bind_ok]
    split
    next =>
      split
      next => exact ⟨_, rfl⟩
      next => exact ⟨_, rfl⟩
    next => exact ⟨_, rfl⟩

theorem exists_onMessageNorth (hheaders : message.message.Headers header session)
    (sendError : Option String) :
    ∃ result, s.onMessageNorth message sendError = .ok result := by
  rw [onMessageNorth, hheaders.session, bind_ok]
  split
  next =>
    split
    next => exact ⟨_, rfl⟩
    next => exact ⟨_, rfl⟩
  next => exact ⟨_, rfl⟩
  next => exact ⟨_, rfl⟩

end RequestResponse

end Slim
