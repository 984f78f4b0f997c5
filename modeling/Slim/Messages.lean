import Slim.Encoder
import Slim.Machine

/-!
# Messages: `messages/utils.rs` and the generated message types

A message is a tree of optional fields, as it comes off the wire.  `validate` looks at
some of the fields; after it the accessors take what they need without looking again,
and stop the task where a field is missing.  Such a stop is an `AccessPanic` here.
-/

namespace Slim

/-! ## The fields of a message -/

structure ProtoAgent where
  organization : UInt64
  nameSpace : UInt64
  agentType : UInt64
  agentId : Option UInt64
deriving DecidableEq, Repr

/-- The fields of a SLIM header that name connections. -/
structure SlimHeader where
  recvFrom : Option Nat
  forwardTo : Option Nat
  incomingConn : Option Nat
deriving DecidableEq, Repr

/-- A SLIM header with all its fields. -/
structure ProtoSlimHeader extends SlimHeader where
  source : Option ProtoAgent
  destination : Option ProtoAgent
  fanout : UInt32
  error : Option Bool
deriving DecidableEq, Repr

inductive SessionHeaderType where
  | unspecified
  | fnf
  | fnfReliable
  | fnfAck
  | fnfDiscovery
  | fnfDiscoveryReply
  | request
  | reply
  | stream
  | pubSub
  | rtxRequest
  | rtxReply
  | beaconStream
  | beaconPubSub
deriving DecidableEq, Repr

structure SessionHeader where
  headerType : Int -- an `i32`, which need not be the number of a header type
  sessionId : UInt32
  messageId : UInt32
deriving DecidableEq, Repr

structure Content where
  contentType : String
  blob : List UInt8
deriving DecidableEq, Repr

structure ProtoSubscribe where
  header : Option ProtoSlimHeader
  organization : String
  nameSpace : String
  agentType : String
deriving DecidableEq, Repr

structure ProtoUnsubscribe where
  header : Option ProtoSlimHeader
deriving DecidableEq, Repr

structure ProtoPublish where
  header : Option ProtoSlimHeader
  session : Option SessionHeader
  msg : Option Content
deriving DecidableEq, Repr

inductive MessageType where
  | publish (publish : ProtoPublish)
  | subscribe (subscribe : ProtoSubscribe)
  | unsubscribe (unsubscribe : ProtoUnsubscribe)
deriving DecidableEq, Repr

/-- The same kind of message with another SLIM header. -/
def MessageType.withHeader (header : ProtoSlimHeader) : MessageType → MessageType
  | publish p => publish { p with header := some header }
  | subscribe s => subscribe { s with header := some header }
  | unsubscribe u => unsubscribe { u with header := some header }

structure ProtoMessage where
  metadata : HashMap String String
  messageType : Option MessageType

namespace SessionHeaderType

/-- The number of a header type on the wire. -/
def toInt : SessionHeaderType → Int
  | unspecified => 0
  | fnf => 1
  | fnfReliable => 2
  | fnfAck => 3
  | fnfDiscovery => 4
  | fnfDiscoveryReply => 5
  | request => 6
  | reply => 7
  | stream => 8
  | pubSub => 9
  | rtxRequest => 10
  | rtxReply => 11
  | beaconStream => 12
  | beaconPubSub => 13

def all : List SessionHeaderType :=
  [unspecified, fnf, fnfReliable, fnfAck, fnfDiscovery, fnfDiscoveryReply, request, reply,
    stream, pubSub, rtxRequest, rtxReply, beaconStream, beaconPubSub]

def tryFrom (value : Int) : Option SessionHeaderType :=
  all.find? fun headerType => decide (headerType.toInt = value)

@[simp] theorem tryFrom_toInt (headerType : SessionHeaderType) :
    tryFrom headerType.toInt = some headerType := by
  cases headerType <;> rfl

def asStrName : SessionHeaderType → String
  | unspecified => "UNSPECIFIED"
  | fnf => "FNF"
  | fnfReliable => "FNF_RELIABLE"
  | fnfAck => "FNF_ACK"
  | fnfDiscovery => "FNF_DISCOVERY"
  | fnfDiscoveryReply => "FNF_DISCOVERY_REPLY"
  | request => "REQUEST"
  | reply => "REPLY"
  | stream => "STREAM"
  | pubSub => "PUB_SUB"
  | rtxRequest => "RTX_REQUEST"
  | rtxReply => "RTX_REPLY"
  | beaconStream => "BEACON_STREAM"
  | beaconPubSub => "BEACON_PUB_SUB"

end SessionHeaderType

/-! ## Panics and errors -/

/-- Where an accessor stops the task. -/
inductive AccessPanic where
  | unwrapNone
  | slimHeaderNotFound
  | sessionHeaderNotFound
  | sourceNotFound
  | destinationNotFound
  | agentIdNotFound
  | incomingConnectionNotFound
  | messageTypeNotFound
  | payloadNotFound
deriving DecidableEq, Repr

/-- `unwrap`, `expect` and the matches that end in a panic. -/
def orPanic {α : Type} (panic : AccessPanic) : Option α → Except AccessPanic α
  | none => .error panic
  | some value => .ok value

@[simp] theorem orPanic_some {α : Type} (panic : AccessPanic) (value : α) :
    orPanic panic (some value) = .ok value := rfl

theorem eq_some_of_orPanic {α : Type} {panic : AccessPanic} {found : Option α} {value : α}
    (hvalue : orPanic panic found = .ok value) : found = some value := by
  cases found with
  | none => cases hvalue
  | some other =>
      cases hvalue
      rfl

inductive MessageError where
  | slimHeaderNotFound
  | sourceNotFound
  | destinationNotFound
  | sessionHeaderNotFound
  | messageTypeNotFound
  | incomingConnectionNotFound
deriving DecidableEq, Repr

def MessageError.display : MessageError → String
  | slimHeaderNotFound => "SLIM header not found"
  | sourceNotFound => "source not found"
  | destinationNotFound => "destination not found"
  | sessionHeaderNotFound => "session header not found"
  | messageTypeNotFound => "message type not found"
  | incomingConnectionNotFound => "incoming connection not found"

/-! ## Names -/

/-- The default id stands for no id, and is not put into the message. -/
def ProtoAgent.ofAgent (agent : Agent) : ProtoAgent where
  organization := agent.agentType.organization
  nameSpace := agent.agentType.nameSpace
  agentType := agent.agentType.agentType
  agentId := if agent.agentId ≠ DEFAULT_AGENT_ID then some agent.agentId else none

def ProtoAgent.ofName (agentType : AgentType) (agentId : Option UInt64) : ProtoAgent where
  organization := agentType.organization
  nameSpace := agentType.nameSpace
  agentType := agentType.agentType
  agentId := agentId

def AgentType.ofProto (agent : ProtoAgent) : AgentType where
  organization := agent.organization
  nameSpace := agent.nameSpace
  agentType := agent.agentType
  strings := none

def Agent.ofProto (agent : ProtoAgent) : Except AccessPanic Agent := do
  let agentId ← orPanic .agentIdNotFound agent.agentId
  return ⟨AgentType.ofProto agent, agentId⟩

/-- The conversion to a message and back loses the strings of an agent, and stops at the
    default id. -/
theorem Agent.ofProto_ofAgent (agent : Agent) :
    Agent.ofProto (ProtoAgent.ofAgent agent) =
      if agent.agentId = DEFAULT_AGENT_ID then .error .agentIdNotFound
      else .ok ⟨AgentType.ofProto (ProtoAgent.ofAgent agent), agent.agentId⟩ := by
  by_cases hid : agent.agentId = DEFAULT_AGENT_ID
  · simp only [Agent.ofProto, ProtoAgent.ofAgent, hid, ne_eq, not_true_eq_false, if_false, if_true]
    rfl
  · simp only [Agent.ofProto, ProtoAgent.ofAgent, hid, ne_eq, not_false_eq_true, if_false, if_true]
    rfl

/-! ## Headers -/

structure SlimHeaderFlags where
  fanout : UInt32
  recvFrom : Option Nat
  forwardTo : Option Nat
  incomingConn : Option Nat
  error : Option Bool
deriving DecidableEq, Repr

namespace SlimHeaderFlags

def default : SlimHeaderFlags := ⟨1, none, none, none, none⟩

def withFanout (flags : SlimHeaderFlags) (fanout : UInt32) : SlimHeaderFlags :=
  { flags with fanout }

def withRecvFrom (flags : SlimHeaderFlags) (recvFrom : Nat) : SlimHeaderFlags :=
  { flags with recvFrom := some recvFrom }

def withForwardTo (flags : SlimHeaderFlags) (forwardTo : Nat) : SlimHeaderFlags :=
  { flags with forwardTo := some forwardTo }

def withError (flags : SlimHeaderFlags) (error : Bool) : SlimHeaderFlags :=
  { flags with error := some error }

end SlimHeaderFlags

namespace SlimHeader

def setIncomingConn (header : SlimHeader) (incomingConn : Option Nat) : SlimHeader :=
  { header with incomingConn := incomingConn }

/-- The connection whose state a message updates, and the one it is forwarded to.  There
    is no result where the source panics, for a header without incoming connection. -/
def getInOutConnections (header : SlimHeader) : Option (Nat × Option Nat) :=
  match header.incomingConn with
  | none => none
  | some incoming =>
      match header.recvFrom with
      | some conn => some (conn, none)
      | none =>
          match header.forwardTo with
          | some conn => some (incoming, some conn)
          | none => some (incoming, none)

/-- The connections of a header that has its incoming connection.  A message is forwarded
    only if it is not to be handled for another connection. -/
theorem getInOutConnections_setIncomingConn (header : SlimHeader) (connIndex : Nat) :
    ∃ conn forward, (header.setIncomingConn (some connIndex)).getInOutConnections =
        some (conn, forward) ∧
      ∀ outConn, forward = some outConn →
        header.recvFrom = none ∧ header.forwardTo = some outConn := by
  rcases header with ⟨recvFrom, forwardTo, incomingConn⟩
  cases recvFrom with
  | some conn => exact ⟨conn, none, rfl, fun _ hforward => nomatch hforward⟩
  | none =>
      cases forwardTo with
      | none => exact ⟨connIndex, none, rfl, fun _ hforward => nomatch hforward⟩
      | some outConn => exact ⟨connIndex, some outConn, rfl, fun _ hforward => ⟨rfl, hforward⟩⟩

/-- When a message that asks to be forwarded is. -/
theorem getInOutConnections_cases {header : SlimHeader} {conn : Nat} {forward : Option Nat}
    (hconns : header.getInOutConnections = some (conn, forward)) :
    header.forwardTo = none ∧ forward = none ∨
      (∃ outConn other, header.forwardTo = some outConn ∧ header.recvFrom = some other ∧
        forward = none) ∨
      ∃ outConn, header.forwardTo = some outConn ∧ header.recvFrom = none ∧
        forward = some outConn := by
  rcases header with ⟨_ | other, _ | outConn, _ | incoming⟩
  all_goals
    simp only [getInOutConnections, reduceCtorEq, Option.some.injEq, Prod.mk.injEq] at hconns
  all_goals
    obtain ⟨-, rfl⟩ := hconns
    simp

end SlimHeader

namespace ProtoSlimHeader

def new (source : Agent) (nameType : AgentType) (nameId : Option UInt64)
    (flags : Option SlimHeaderFlags) : ProtoSlimHeader :=
  let flags := flags.getD SlimHeaderFlags.default
  { source := some (ProtoAgent.ofAgent source)
    destination := some (ProtoAgent.ofName nameType nameId)
    fanout := flags.fanout
    recvFrom := flags.recvFrom
    forwardTo := flags.forwardTo
    incomingConn := flags.incomingConn
    error := flags.error }

def clear (header : ProtoSlimHeader) : ProtoSlimHeader :=
  { header with recvFrom := none, forwardTo := none }

def getSource (header : ProtoSlimHeader) : Except AccessPanic Agent := do
  let source ← orPanic .sourceNotFound header.source
  Agent.ofProto source

def getDst (header : ProtoSlimHeader) : Except AccessPanic (AgentType × Option UInt64) := do
  let destination ← orPanic .destinationNotFound header.destination
  return (AgentType.ofProto destination, destination.agentId)

def getInOutConnections (header : ProtoSlimHeader) : Except AccessPanic (Nat × Option Nat) :=
  orPanic .incomingConnectionNotFound header.toSlimHeader.getInOutConnections

end ProtoSlimHeader

/-! ## Constructors -/

namespace ProtoMessage

/-- The strings of the name are unwrapped, so a name without strings has no message. -/
def newSubscribe (source : Agent) (agentType : AgentType) (agentId : Option UInt64)
    (flags : Option SlimHeaderFlags) : Except AccessPanic ProtoMessage := do
  let strings ← orPanic .unwrapNone agentType.strings
  let subscribe : ProtoSubscribe :=
    { header := some (ProtoSlimHeader.new source agentType agentId flags)
      organization := strings.1
      nameSpace := strings.2.1
      agentType := strings.2.2 }
  return ⟨HashMap.empty, some (.subscribe subscribe)⟩

def newUnsubscribe (source : Agent) (agentType : AgentType) (agentId : Option UInt64)
    (flags : Option SlimHeaderFlags) : ProtoMessage :=
  ⟨HashMap.empty,
    some (.unsubscribe ⟨some (ProtoSlimHeader.new source agentType agentId flags)⟩)⟩

def newPublish (source : Agent) (agentType : AgentType) (agentId : Option UInt64)
    (flags : Option SlimHeaderFlags) (contentType : String) (blob : List UInt8) : ProtoMessage :=
  ⟨HashMap.empty, some (.publish
    { header := some (ProtoSlimHeader.new source agentType agentId flags)
      session := some ⟨0, 0, 0⟩
      msg := some ⟨contentType, blob⟩ })⟩

def newPublishWithHeaders (slimHeader : Option ProtoSlimHeader)
    (sessionHeader : Option SessionHeader) (contentType : String) (blob : List UInt8) :
    ProtoMessage :=
  ⟨HashMap.empty, some (.publish ⟨slimHeader, sessionHeader, some ⟨contentType, blob⟩⟩)⟩

/-! ## `validate` -/

def tryGetSlimHeader (msg : ProtoMessage) : Option ProtoSlimHeader :=
  match msg.messageType with
  | some (.publish publish) => publish.header
  | some (.subscribe subscribe) => subscribe.header
  | some (.unsubscribe unsubscribe) => unsubscribe.header
  | none => none

def validate (msg : ProtoMessage) : Except MessageError Unit :=
  if msg.messageType.isNone then .error .messageTypeNotFound
  else
    match msg.tryGetSlimHeader with
    | none => .error .slimHeaderNotFound
    | some header =>
        if header.source.isNone then .error .sourceNotFound
        else if header.destination.isNone then .error .destinationNotFound
        else
          match msg.messageType with
          | some (.publish publish) =>
              if publish.header.isNone then .error .slimHeaderNotFound
              else if publish.session.isNone then .error .sessionHeaderNotFound
              else .ok ()
          | some (.subscribe subscribe) =>
              if subscribe.header.isNone then .error .slimHeaderNotFound else .ok ()
          | some (.unsubscribe unsubscribe) =>
              if unsubscribe.header.isNone then .error .slimHeaderNotFound else .ok ()
          | none => .error .messageTypeNotFound

/-! ## Accessors -/

def getType (msg : ProtoMessage) : Except AccessPanic MessageType :=
  orPanic .messageTypeNotFound msg.messageType

def getSlimHeader (msg : ProtoMessage) : Except AccessPanic ProtoSlimHeader :=
  match msg.messageType with
  | some (.publish publish) => orPanic .unwrapNone publish.header
  | some (.subscribe subscribe) => orPanic .unwrapNone subscribe.header
  | some (.unsubscribe unsubscribe) => orPanic .unwrapNone unsubscribe.header
  | none => .error .slimHeaderNotFound

/-- A change of the header that `get_slim_header_mut` gives access to. -/
def modifySlimHeader (f : ProtoSlimHeader → ProtoSlimHeader) (msg : ProtoMessage) :
    Except AccessPanic ProtoMessage :=
  match msg.messageType with
  | some (.publish publish) => do
      let header ← orPanic .unwrapNone publish.header
      return { msg with messageType := some (.publish { publish with header := some (f header) }) }
  | some (.subscribe subscribe) => do
      let header ← orPanic .unwrapNone subscribe.header
      return { msg with
        messageType := some (.subscribe { subscribe with header := some (f header) }) }
  | some (.unsubscribe unsubscribe) => do
      let header ← orPanic .unwrapNone unsubscribe.header
      return { msg with
        messageType := some (.unsubscribe { unsubscribe with header := some (f header) }) }
  | none => .error .slimHeaderNotFound

def setIncomingConn (msg : ProtoMessage) (incomingConn : Option Nat) :
    Except AccessPanic ProtoMessage :=
  msg.modifySlimHeader fun header => { header with incomingConn := incomingConn }

def setFanout (msg : ProtoMessage) (fanout : UInt32) : Except AccessPanic ProtoMessage :=
  msg.modifySlimHeader fun header => { header with fanout := fanout }

def setDestination (msg : ProtoMessage) (destination : Agent) : Except AccessPanic ProtoMessage :=
  msg.modifySlimHeader fun header =>
    { header with destination := some (ProtoAgent.ofAgent destination) }

def setForwardTo (msg : ProtoMessage) (forwardTo : Option Nat) : Except AccessPanic ProtoMessage :=
  msg.modifySlimHeader fun header => { header with forwardTo := forwardTo }

def clearSlimHeader (msg : ProtoMessage) : Except AccessPanic ProtoMessage :=
  msg.modifySlimHeader ProtoSlimHeader.clear

def getSessionHeader (msg : ProtoMessage) : Except AccessPanic SessionHeader :=
  match msg.messageType with
  | some (.publish publish) => orPanic .unwrapNone publish.session
  | _ => .error .sessionHeaderNotFound

/-- A change of the header that `get_session_header_mut` gives access to. -/
def modifySessionHeader (f : SessionHeader → SessionHeader) (msg : ProtoMessage) :
    Except AccessPanic ProtoMessage :=
  match msg.messageType with
  | some (.publish publish) => do
      let session ← orPanic .unwrapNone publish.session
      return { msg with
        messageType := some (.publish { publish with session := some (f session) }) }
  | _ => .error .sessionHeaderNotFound

def setHeaderType (msg : ProtoMessage) (headerType : SessionHeaderType) :
    Except AccessPanic ProtoMessage :=
  msg.modifySessionHeader fun session => { session with headerType := headerType.toInt }

def setMessageId (msg : ProtoMessage) (messageId : UInt32) : Except AccessPanic ProtoMessage :=
  msg.modifySessionHeader fun session => { session with messageId := messageId }

def getMessageId (msg : ProtoMessage) : Except AccessPanic UInt32 := do
  let session ← msg.getSessionHeader
  return session.messageId

def getSource (msg : ProtoMessage) : Except AccessPanic Agent := do
  let header ← msg.getSlimHeader
  header.getSource

def getDst (msg : ProtoMessage) : Except AccessPanic (AgentType × Option UInt64) := do
  let header ← msg.getSlimHeader
  header.getDst

def getFanout (msg : ProtoMessage) : Except AccessPanic UInt32 := do
  let header ← msg.getSlimHeader
  return header.fanout

def getRecvFrom (msg : ProtoMessage) : Except AccessPanic (Option Nat) := do
  let header ← msg.getSlimHeader
  return header.recvFrom

def getForwardTo (msg : ProtoMessage) : Except AccessPanic (Option Nat) := do
  let header ← msg.getSlimHeader
  return header.forwardTo

def getError (msg : ProtoMessage) : Except AccessPanic (Option Bool) := do
  let header ← msg.getSlimHeader
  return header.error

def getIncomingConn (msg : ProtoMessage) : Except AccessPanic Nat := do
  let header ← msg.getSlimHeader
  orPanic .unwrapNone header.incomingConn

def tryGetIncomingConn (msg : ProtoMessage) : Except AccessPanic (Option Nat) := do
  let header ← msg.getSlimHeader
  return header.incomingConn

def getInOutConnections (msg : ProtoMessage) : Except AccessPanic (Nat × Option Nat) := do
  let header ← msg.getSlimHeader
  header.getInOutConnections

/-- The name a message is about.  A subscription carries the strings of the name, and
    the type is computed from them; otherwise it is the destination of the header. -/
def getName [NameHash] (msg : ProtoMessage) :
    Except AccessPanic (AgentType × Option UInt64) := do
  let (agentType, agentId) ← msg.getDst
  match msg.messageType with
  | some (.subscribe subscribe) =>
      return (AgentType.fromStrings subscribe.organization subscribe.nameSpace
        subscribe.agentType, agentId)
  | _ => return (agentType, agentId)

def getNameAsAgent (msg : ProtoMessage) : Except AccessPanic Agent := do
  let (agentType, agentId) ← msg.getDst
  return ⟨agentType, agentId.getD DEFAULT_AGENT_ID⟩

def getPayload (msg : ProtoMessage) : Except AccessPanic (Option Content) :=
  match msg.messageType with
  | some (.publish publish) => .ok publish.msg
  | _ => .error .payloadNotFound

/-- A number that is no header type counts as the default one. -/
def getHeaderType (msg : ProtoMessage) : Except AccessPanic SessionHeaderType := do
  let session ← msg.getSessionHeader
  return (SessionHeaderType.tryFrom session.headerType).getD .unspecified

def isPublish (msg : ProtoMessage) : Except AccessPanic Bool := do
  match ← msg.getType with
  | .publish _ => return true
  | _ => return false

def insertMetadata (msg : ProtoMessage) (key value : String) : ProtoMessage :=
  { msg with metadata := msg.metadata.insert key value }

def removeMetadata (msg : ProtoMessage) (key : String) : ProtoMessage :=
  { msg with metadata := msg.metadata.remove key }

/-- The payload, for a message that is a publication and has one. -/
def content (msg : ProtoMessage) : Option Content :=
  match msg.messageType with
  | some (.publish publish) => publish.msg
  | _ => none

/-- The message with other bytes in its payload, if it has a payload. -/
def withBlob (msg : ProtoMessage) (blob : List UInt8) : ProtoMessage :=
  match msg.messageType with
  | some (.publish publish) =>
      { msg with
        messageType := some (.publish
          { publish with msg := publish.msg.map fun content => { content with blob := blob } }) }
  | _ => msg

@[simp] theorem content_withBlob (msg : ProtoMessage) (blob : List UInt8) :
    (msg.withBlob blob).content = msg.content.map fun content => { content with blob := blob } := by
  rcases msg with ⟨metadata, _ | ⟨publish⟩ | ⟨subscribe⟩ | ⟨unsubscribe⟩⟩
  all_goals rfl

@[simp] theorem withBlob_withBlob (msg : ProtoMessage) (first second : List UInt8) :
    (msg.withBlob first).withBlob second = msg.withBlob second := by
  rcases msg with ⟨metadata, _ | ⟨⟨header, session, _ | content⟩⟩ | ⟨subscribe⟩ | ⟨unsubscribe⟩⟩
  all_goals rfl

theorem withBlob_of_content {msg : ProtoMessage} {content : Content}
    (hcontent : msg.content = some content) : msg.withBlob content.blob = msg := by
  rcases msg with ⟨metadata, _ | ⟨⟨header, session, _ | found⟩⟩ | ⟨subscribe⟩ | ⟨unsubscribe⟩⟩
  all_goals cases hcontent
  rfl

@[simp] theorem content_insertMetadata (msg : ProtoMessage) (key value : String) :
    (msg.insertMetadata key value).content = msg.content := rfl

@[simp] theorem content_removeMetadata (msg : ProtoMessage) (key : String) :
    (msg.removeMetadata key).content = msg.content := rfl

@[simp] theorem metadata_withBlob (msg : ProtoMessage) (blob : List UInt8) :
    (msg.withBlob blob).metadata = msg.metadata := by
  rcases msg with ⟨metadata, _ | ⟨publish⟩ | ⟨subscribe⟩ | ⟨unsubscribe⟩⟩
  all_goals rfl

theorem exists_publish_of_content {msg : ProtoMessage} {content : Content}
    (hcontent : msg.content = some content) :
    ∃ publish, msg.messageType = some (.publish publish) := by
  unfold ProtoMessage.content at hcontent
  split at hcontent
  next publish hpublish => exact ⟨publish, hpublish⟩
  next => cases hcontent

theorem content_of_getPayload (msg : ProtoMessage) {payload : Option Content}
    (hpayload : msg.getPayload = .ok payload) : msg.content = payload := by
  rcases msg with ⟨metadata, _ | ⟨publish⟩ | ⟨subscribe⟩ | ⟨unsubscribe⟩⟩
  all_goals cases hpayload
  rfl

/-- A message with an id is a publication. -/
theorem exists_publish_of_getMessageId {msg : ProtoMessage} {id : UInt32}
    (hid : msg.getMessageId = .ok id) : ∃ publish, msg.messageType = some (.publish publish) := by
  obtain ⟨session, hsession, -⟩ := Machine.bind_eq_ok hid
  unfold getSessionHeader at hsession
  split at hsession
  next publish hpublish => exact ⟨publish, hpublish⟩
  next => cases hsession

theorem getPayload_of_getMessageId (msg : ProtoMessage) {id : UInt32}
    (hid : msg.getMessageId = .ok id) : msg.getPayload = .ok msg.content := by
  obtain ⟨publish, hpublish⟩ := exists_publish_of_getMessageId hid
  simp only [getPayload, content, hpublish]

/-! ## Messages with a header -/

section Headers

variable {msg : ProtoMessage} {header : ProtoSlimHeader}

theorem getSlimHeader_of_some (hheader : msg.tryGetSlimHeader = some header) :
    msg.getSlimHeader = .ok header := by
  unfold tryGetSlimHeader at hheader
  unfold getSlimHeader
  rcases htype : msg.messageType with _ | ⟨publish⟩ | ⟨subscribe⟩ | ⟨unsubscribe⟩
  · rw [htype] at hheader
    cases hheader
  all_goals
    simp only [htype] at hheader
    simp only [hheader, orPanic_some]

/-- The message with another SLIM header. -/
def withHeader (msg : ProtoMessage) (header : ProtoSlimHeader) : ProtoMessage :=
  { msg with messageType := msg.messageType.map (MessageType.withHeader header) }

theorem modifySlimHeader_of_some (f : ProtoSlimHeader → ProtoSlimHeader)
    (hheader : msg.tryGetSlimHeader = some header) :
    msg.modifySlimHeader f = .ok (msg.withHeader (f header)) := by
  unfold tryGetSlimHeader at hheader
  unfold modifySlimHeader withHeader
  rcases htype : msg.messageType with _ | ⟨publish⟩ | ⟨subscribe⟩ | ⟨unsubscribe⟩
  · rw [htype] at hheader
    cases hheader
  all_goals
    simp only [htype] at hheader
    simp only [hheader, orPanic_some]
    rfl

theorem tryGetSlimHeader_withHeader (hheader : msg.tryGetSlimHeader = some header)
    (changed : ProtoSlimHeader) : (msg.withHeader changed).tryGetSlimHeader = some changed := by
  unfold tryGetSlimHeader at hheader
  unfold tryGetSlimHeader withHeader
  rcases htype : msg.messageType with _ | ⟨publish⟩ | ⟨subscribe⟩ | ⟨unsubscribe⟩
  · rw [htype] at hheader
    cases hheader
  all_goals rfl

@[simp] theorem metadata_withHeader (changed : ProtoSlimHeader) :
    (msg.withHeader changed).metadata = msg.metadata := rfl

theorem session_withHeader {changed : ProtoSlimHeader}
    (hsession : ∀ publish, msg.messageType = some (.publish publish) → publish.session ≠ none)
    (publish : ProtoPublish)
    (htype : (msg.withHeader changed).messageType = some (.publish publish)) :
    publish.session ≠ none := by
  unfold withHeader at htype
  rcases horiginal : msg.messageType with _ | ⟨original⟩ | ⟨subscribe⟩ | ⟨unsubscribe⟩
  all_goals simp only [horiginal, Option.map, MessageType.withHeader] at htype
  any_goals cases htype
  exact hsession original horiginal

@[simp] theorem getSessionHeader_withHeader (changed : ProtoSlimHeader) :
    (msg.withHeader changed).getSessionHeader = msg.getSessionHeader := by
  unfold getSessionHeader withHeader
  rcases msg.messageType with _ | ⟨publish⟩ | ⟨subscribe⟩ | ⟨unsubscribe⟩
  all_goals rfl

@[simp] theorem content_withHeader (changed : ProtoSlimHeader) :
    (msg.withHeader changed).content = msg.content := by
  unfold content withHeader
  rcases msg.messageType with _ | ⟨publish⟩ | ⟨subscribe⟩ | ⟨unsubscribe⟩
  all_goals rfl

/-- A change of the SLIM header that goes through. -/
theorem modifySlimHeader_eq_ok {f : ProtoSlimHeader → ProtoSlimHeader} {changed : ProtoMessage}
    (hchanged : msg.modifySlimHeader f = .ok changed) :
    ∃ header, msg.tryGetSlimHeader = some header ∧ changed = msg.withHeader (f header) := by
  rcases hheader : msg.tryGetSlimHeader with _ | header
  · unfold tryGetSlimHeader at hheader
    unfold modifySlimHeader at hchanged
    rcases htype : msg.messageType with _ | ⟨publish⟩ | ⟨subscribe⟩ | ⟨unsubscribe⟩
    all_goals
      simp only [htype] at hheader hchanged
      try rw [hheader] at hchanged
      cases hchanged
  · rw [modifySlimHeader_of_some f hheader] at hchanged
    cases hchanged
    exact ⟨header, rfl, rfl⟩

/-- A change of the session header that goes through leaves everything else as it is. -/
theorem modifySessionHeader_eq_ok {f : SessionHeader → SessionHeader} {changed : ProtoMessage}
    (hchanged : msg.modifySessionHeader f = .ok changed) :
    ∃ session, msg.getSessionHeader = .ok session ∧ changed.getSessionHeader = .ok (f session) ∧
      changed.content = msg.content ∧ changed.metadata = msg.metadata := by
  unfold modifySessionHeader at hchanged
  rcases htype : msg.messageType with _ | ⟨publish⟩ | ⟨subscribe⟩ | ⟨unsubscribe⟩
  all_goals simp only [htype] at hchanged
  any_goals cases hchanged
  obtain ⟨session, hsession, hchanged⟩ := Machine.bind_eq_ok hchanged
  cases hchanged
  refine ⟨session, ?_, rfl, ?_, rfl⟩
  · simp only [getSessionHeader, htype, hsession]
  · simp only [content, htype]

theorem exists_type (hheader : msg.tryGetSlimHeader = some header) :
    ∃ messageType, msg.messageType = some messageType := by
  apply Option.ne_none_iff_exists'.1
  intro hnone
  simp only [tryGetSlimHeader, hnone] at hheader
  cases hheader

/-- What `validate` guarantees. -/
theorem validate_ok_iff :
    msg.validate = .ok () ↔
      ∃ header source destination, msg.tryGetSlimHeader = some header ∧
        header.source = some source ∧ header.destination = some destination ∧
        ∀ publish, msg.messageType = some (.publish publish) → publish.session ≠ none := by
  unfold validate
  rcases hheader : msg.tryGetSlimHeader with _ | header
  · rcases msg.messageType with _ | messageType
    · simp
    · simp
  obtain ⟨messageType, htype⟩ := exists_type hheader
  rcases hsource : header.source with _ | source
  · simp [htype, hsource]
  rcases hdestination : header.destination with _ | destination
  · simp [htype, hsource, hdestination]
  cases messageType with
  | publish publish =>
      simp only [tryGetSlimHeader, htype] at hheader
      rcases hsession : publish.session with _ | session
      · simp [htype, hheader, hsource, hdestination, hsession]
      · simp [htype, hheader, hsource, hdestination, hsession]
  | subscribe subscribe =>
      simp only [tryGetSlimHeader, htype] at hheader
      simp [htype, hheader, hsource, hdestination]
  | unsubscribe unsubscribe =>
      simp only [tryGetSlimHeader, htype] at hheader
      simp [htype, hheader, hsource, hdestination]

end Headers

/-! ## Publications -/

/-- The two headers of a publication. -/
structure Headers (msg : ProtoMessage) (header : ProtoSlimHeader) (session : SessionHeader) :
    Prop where
  slim : msg.getSlimHeader = .ok header
  session : msg.getSessionHeader = .ok session

section Publications

open Machine

variable {msg : ProtoMessage} {header : ProtoSlimHeader} {session : SessionHeader}

theorem Headers.exists_publish (hs : msg.Headers header session) :
    ∃ content, msg.messageType = some (.publish ⟨some header, some session, content⟩) := by
  obtain ⟨hslim, hsession⟩ := hs
  rcases msg with ⟨metadata, _ | ⟨⟨slim, found, content⟩⟩ | ⟨subscribe⟩ | ⟨unsubscribe⟩⟩
  · cases hsession
  · have hslimSome : slim = some header := eq_some_of_orPanic hslim
    have hsessionSome : found = some session := eq_some_of_orPanic hsession
    rw [hslimSome, hsessionSome]
    exact ⟨content, rfl⟩
  · cases hsession
  · cases hsession

theorem Headers.modifySessionHeader (hs : msg.Headers header session)
    (f : SessionHeader → SessionHeader) :
    ∃ changed, msg.modifySessionHeader f = .ok changed ∧ changed.Headers header (f session) := by
  obtain ⟨content, htype⟩ := hs.exists_publish
  simp only [ProtoMessage.modifySessionHeader, htype, orPanic_some, bind_ok]
  exact ⟨_, rfl, rfl, rfl⟩

theorem Headers.modifySlimHeader (hs : msg.Headers header session)
    (f : ProtoSlimHeader → ProtoSlimHeader) :
    ∃ changed, msg.modifySlimHeader f = .ok changed ∧ changed.Headers (f header) session := by
  obtain ⟨content, htype⟩ := hs.exists_publish
  simp only [ProtoMessage.modifySlimHeader, htype, orPanic_some, bind_ok]
  exact ⟨_, rfl, rfl, rfl⟩

theorem Headers.getSource (hs : msg.Headers header session) : msg.getSource = header.getSource := by
  rw [ProtoMessage.getSource, hs.slim, bind_ok]

theorem Headers.getDst (hs : msg.Headers header session) : msg.getDst = header.getDst := by
  rw [ProtoMessage.getDst, hs.slim, bind_ok]

theorem Headers.getIncomingConn (hs : msg.Headers header session) :
    msg.getIncomingConn = orPanic .unwrapNone header.incomingConn := by
  rw [ProtoMessage.getIncomingConn, hs.slim, bind_ok]

theorem Headers.getError (hs : msg.Headers header session) : msg.getError = .ok header.error := by
  rw [ProtoMessage.getError, hs.slim, bind_ok]
  rfl

theorem Headers.getMessageId (hs : msg.Headers header session) :
    msg.getMessageId = .ok session.messageId := by
  rw [ProtoMessage.getMessageId, hs.session, bind_ok]
  rfl

theorem Headers.getHeaderType (hs : msg.Headers header session) :
    msg.getHeaderType =
      .ok ((SessionHeaderType.tryFrom session.headerType).getD .unspecified) := by
  rw [ProtoMessage.getHeaderType, hs.session, bind_ok]
  rfl

/-- The name of a publication is its destination. -/
theorem Headers.getName [NameHash] (hs : msg.Headers header session)
    {name : AgentType × Option UInt64} (hdst : header.getDst = .ok name) :
    msg.getName = .ok name := by
  obtain ⟨content, htype⟩ := hs.exists_publish
  rw [ProtoMessage.getName, hs.getDst, hdst, bind_ok, htype]
  rfl

/-- A publication that `validate` accepts has its headers, and a destination. -/
theorem headers_of_validate (hvalid : msg.validate = .ok ()) (hpublish : msg.isPublish = .ok true) :
    ∃ header session name, msg.Headers header session ∧ header.getDst = .ok name := by
  obtain ⟨header, source, destination, hheader, -, hdestination, hsession⟩ :=
    validate_ok_iff.1 hvalid
  rcases htype : msg.messageType with _ | ⟨publish⟩ | ⟨subscribe⟩ | ⟨unsubscribe⟩
  all_goals simp only [isPublish, getType, htype, orPanic_some, bind_ok] at hpublish
  · cases hpublish
  · obtain ⟨session, hsome⟩ := Option.ne_none_iff_exists'.1 (hsession publish htype)
    refine ⟨header, session, (AgentType.ofProto destination, destination.agentId),
      ⟨getSlimHeader_of_some hheader, ?_⟩, ?_⟩
    · simp only [getSessionHeader, htype, hsome, orPanic_some]
    · rw [ProtoSlimHeader.getDst, hdestination, orPanic_some, bind_ok]
      rfl
  · cases hpublish
  · cases hpublish

end Publications

/-! ## A validated message and the data path -/

/-- The computation does not stop the task. -/
def Returns {α : Type} (computation : Except AccessPanic α) : Prop :=
  ∃ value, computation = .ok value

/-- The accessors by which the data path reads a message it processes. -/
structure Accessible [NameHash] (msg : ProtoMessage) : Prop where
  getType : Returns msg.getType
  getSlimHeader : Returns msg.getSlimHeader
  getSource : Returns msg.getSource
  getNameAsAgent : Returns msg.getNameAsAgent
  getName : Returns msg.getName
  getDst : Returns msg.getDst
  getInOutConnections : Returns msg.getInOutConnections
  getFanout : Returns msg.getFanout
  getForwardTo : Returns msg.getForwardTo
  session : ∀ publish, msg.messageType = some (.publish publish) →
    Returns msg.getSessionHeader ∧ Returns msg.getHeaderType

/-- The source of the message carries an agent id. -/
def SourceHasId (msg : ProtoMessage) : Prop :=
  ∃ header source agentId, msg.tryGetSlimHeader = some header ∧ header.source = some source ∧
    source.agentId = some agentId

section Accessible

variable {msg : ProtoMessage} {header : ProtoSlimHeader}

theorem getSource_of_some {source : ProtoAgent} (hheader : msg.tryGetSlimHeader = some header)
    (hsource : header.source = some source) : msg.getSource = Agent.ofProto source := by
  simp only [ProtoMessage.getSource, getSlimHeader_of_some hheader, ProtoSlimHeader.getSource,
    Machine.bind_ok, hsource, orPanic_some]

theorem getDst_of_some {destination : ProtoAgent} (hheader : msg.tryGetSlimHeader = some header)
    (hdestination : header.destination = some destination) :
    msg.getDst = .ok (AgentType.ofProto destination, destination.agentId) := by
  simp only [ProtoMessage.getDst, getSlimHeader_of_some hheader, ProtoSlimHeader.getDst,
    Machine.bind_ok, hdestination, orPanic_some]
  rfl

theorem returns_ofProto_iff (source : ProtoAgent) :
    Returns (Agent.ofProto source) ↔ ∃ agentId, source.agentId = some agentId := by
  unfold Agent.ofProto
  rcases source.agentId with _ | agentId
  · constructor
    · rintro ⟨agent, hagent⟩
      cases hagent
    · rintro ⟨agentId, hid⟩
      cases hid
  · exact ⟨fun _ => ⟨agentId, rfl⟩, fun _ => ⟨_, rfl⟩⟩

theorem sourceHasId_iff {source : ProtoAgent} (hheader : msg.tryGetSlimHeader = some header)
    (hsource : header.source = some source) :
    msg.SourceHasId ↔ Returns (Agent.ofProto source) := by
  simp only [SourceHasId, hheader, Option.some.injEq, exists_and_left, exists_eq_left', hsource,
    returns_ofProto_iff]

/-- Only the source stands in the way of the accessors, once the headers, the two names
    and the incoming connection are there. -/
theorem accessible_iff [NameHash] {source destination : ProtoAgent} {incoming : Nat}
    (hheader : msg.tryGetSlimHeader = some header) (hsource : header.source = some source)
    (hdestination : header.destination = some destination)
    (hincoming : header.incomingConn = some incoming)
    (hsession : ∀ publish, msg.messageType = some (.publish publish) →
      publish.session ≠ none) :
    msg.Accessible ↔ ∃ agentId, source.agentId = some agentId := by
  have hdst := getDst_of_some hheader hdestination
  rw [← returns_ofProto_iff, ← getSource_of_some hheader hsource]
  constructor
  · intro haccessible
    exact haccessible.getSource
  · intro hreturns
    constructor
    · obtain ⟨messageType, htype⟩ := exists_type hheader
      exact ⟨messageType, by rw [ProtoMessage.getType, htype, orPanic_some]⟩
    · exact ⟨header, getSlimHeader_of_some hheader⟩
    · exact hreturns
    · exact ⟨_, by rw [ProtoMessage.getNameAsAgent, hdst]; rfl⟩
    · unfold ProtoMessage.getName
      rw [hdst]
      rcases msg.messageType with _ | ⟨publish⟩ | ⟨subscribe⟩ | ⟨unsubscribe⟩
      all_goals exact ⟨_, rfl⟩
    · exact ⟨_, hdst⟩
    · have hconns : ∃ conns, header.toSlimHeader.getInOutConnections = some conns := by
        simp only [SlimHeader.getInOutConnections, hincoming]
        rcases header.recvFrom with _ | conn
        · rcases header.forwardTo with _ | conn
          all_goals exact ⟨_, rfl⟩
        · exact ⟨_, rfl⟩
      obtain ⟨conns, hconns⟩ := hconns
      refine ⟨conns, ?_⟩
      simp only [ProtoMessage.getInOutConnections, getSlimHeader_of_some hheader,
        ProtoSlimHeader.getInOutConnections, Machine.bind_ok, hconns, orPanic_some]
    · exact ⟨_, by rw [ProtoMessage.getFanout, getSlimHeader_of_some hheader]; rfl⟩
    · exact ⟨_, by rw [ProtoMessage.getForwardTo, getSlimHeader_of_some hheader]; rfl⟩
    · intro publish htype
      obtain ⟨session, hsome⟩ := Option.ne_none_iff_exists'.1 (hsession publish htype)
      have hget : msg.getSessionHeader = .ok session := by
        simp only [ProtoMessage.getSessionHeader, htype, hsome, orPanic_some]
      exact ⟨⟨session, hget⟩, _, by rw [ProtoMessage.getHeaderType, hget]; rfl⟩

end Accessible

/-- A message that `validate` accepts takes the incoming connection, and then no accessor
    stops the task if and only if the source of the message carries an agent id. -/
theorem validated_accessible_iff [NameHash] (msg : ProtoMessage) (incoming : Nat)
    (hvalid : msg.validate = .ok ()) :
    ∃ stamped, msg.setIncomingConn (some incoming) = .ok stamped ∧
      (stamped.Accessible ↔ msg.SourceHasId) := by
  obtain ⟨header, source, destination, hheader, hsource, hdestination, hsession⟩ :=
    validate_ok_iff.1 hvalid
  refine ⟨_, modifySlimHeader_of_some _ hheader, ?_⟩
  have hstamped := tryGetSlimHeader_withHeader hheader { header with incomingConn := some incoming }
  rw [accessible_iff hstamped hsource hdestination rfl (session_withHeader hsession)]
  rw [sourceHasId_iff hheader hsource, returns_ofProto_iff]

/-- An unsubscription sent by the agent with the given id. -/
def unsubscribeFrom (agentId : UInt64) : ProtoMessage :=
  newUnsubscribe ⟨⟨1, 1, 1, none⟩, agentId⟩ ⟨1, 1, 2, none⟩ none none

/-- The constructors leave the default agent id out of the message: such a message is
    valid, and reading its source stops the task. -/
theorem default_source_id_panics :
    (unsubscribeFrom DEFAULT_AGENT_ID).validate = .ok () ∧
      ∃ stamped, (unsubscribeFrom DEFAULT_AGENT_ID).setIncomingConn (some 0) = .ok stamped ∧
        stamped.getSource = .error .agentIdNotFound ∧ ∀ _ : NameHash, ¬ stamped.Accessible := by
  refine ⟨rfl, _, rfl, rfl, fun _ haccessible => ?_⟩
  obtain ⟨agent, hagent⟩ := haccessible.getSource
  cases hagent

theorem validated_accessible_iff_sample :
    (unsubscribeFrom 7).validate = .ok () ∧
      ∃ stamped, (unsubscribeFrom 7).setIncomingConn (some 0) = .ok stamped ∧
        (@Accessible sampleHash stamped ↔ (unsubscribeFrom 7).SourceHasId) :=
  ⟨rfl, @validated_accessible_iff sampleHash (unsubscribeFrom 7) 0 rfl⟩

end ProtoMessage

end Slim
