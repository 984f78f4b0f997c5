import Slim.Session
import Slim.ProducerBuffer

/-!
# Streaming sessions: `streaming.rs`

The task of a session handles messages and timer events one at a time.  A producer
numbers the messages of its application, keeps them in its buffer and sends them; while
it is silent it announces the last number by beacons.  A receiver has a buffer for every
producer, asks again for the ids that are missing, and hands messages and losses to its
application in order.  A bidirectional session is both.

A panic ends the task.  The channel to the application takes what it is given.  The
channel to the network may be closed, which the application is told only for a message
of its own; whatever else is not sent counts as lost in the network.
-/

namespace Slim

open HashKey Machine

/-- Where the task of a session can stop. -/
inductive StreamPanic where
  | access (panic : AccessPanic)
  | arithmetic (panic : Panic)
deriving DecidableEq, Repr

namespace StreamPanic

abbrev ofAccess {α : Type} : Except AccessPanic α → Except StreamPanic α :=
  Except.mapError access

abbrev ofArithmetic {α : Type} : Except Panic α → Except StreamPanic α :=
  Except.mapError arithmetic

end StreamPanic

open StreamPanic

def STREAM_BROADCAST : UInt32 := 50

/-- What the task of a session is started with. -/
structure StreamContext where
  build : Build
  sessionId : UInt32
  source : Agent
  maxRetries : UInt32
  timeout : Duration

/-- The items for the application.  With each stands the producer whose buffer released it,
    which the item itself does not say; none for what the session reports of its own. -/
abbrev AppItems := List (Option Agent × Except SessionError SessionMessage)

/-- What the task sends while it handles an event. -/
structure Effects where
  toSlim : List ProtoMessage
  toApp : AppItems

def Effects.nothing : Effects := ⟨[], []⟩

/-! ## The producer -/

structure ProducerState where
  buffer : ProducerBuffer
  nextId : UInt32

def ProducerState.new : ProducerState :=
  ⟨ProducerBuffer.withCapacity 500 (by decide), 0⟩

namespace ProducerState

/-- The reply to a request for an id that is in the buffer. -/
def rtxReply (ctx : StreamContext) (pktSrc : Agent) (incomingConn : Nat) (msgRtxId : UInt32)
    (payload : Content) : ProtoMessage :=
  ProtoMessage.newPublishWithHeaders
    (some (ProtoSlimHeader.new ctx.source pktSrc.agentType (some pktSrc.agentId)
      (some ((SlimHeaderFlags.default.withForwardTo incomingConn).withFanout 1))))
    (some ⟨SessionHeaderType.rtxReply.toInt, ctx.sessionId, msgRtxId⟩) "" payload.blob

/-- The reply to a request for an id that is not: empty, with the error flag. -/
def rtxError (ctx : StreamContext) (pktSrc : Agent) (incomingConn : Nat) (msgRtxId : UInt32) :
    ProtoMessage :=
  ProtoMessage.newPublishWithHeaders
    (some (ProtoSlimHeader.new ctx.source pktSrc.agentType (some pktSrc.agentId)
      (some ((SlimHeaderFlags.default.withForwardTo incomingConn).withError true))))
    (some ⟨SessionHeaderType.rtxReply.toInt, ctx.sessionId, msgRtxId⟩) "" []

/-- A message without payload is not sent again. -/
def processIncomingRtxRequest (ctx : StreamContext) (producer : ProducerState)
    (msg : ProtoMessage) : Except AccessPanic (Option ProtoMessage) := do
  let msgRtxId ← msg.getMessageId
  let pktSrc ← msg.getSource
  let incomingConn ← msg.getIncomingConn
  match producer.buffer.get msgRtxId.toNat with
  | some packet => do
      let payload ← packet.getPayload
      return payload.map (rtxReply ctx pktSrc incomingConn msgRtxId)
  | none => return some (rtxError ctx pktSrc incomingConn msgRtxId)

/-- The message as it is sent: with its kind, its number and the broadcast fanout. -/
def stamp (producer : ProducerState) (isBidirectional : Bool) (msg : ProtoMessage) :
    Except AccessPanic ProtoMessage := do
  let msg ← msg.setHeaderType (if isBidirectional then .pubSub else .stream)
  let msg ← msg.setMessageId producer.nextId
  msg.setFanout STREAM_BROADCAST

/-- Send a message of the application, or tell it that this cannot be done. -/
def sendOrReport (msg : ProtoMessage) (slimClosed : Bool) : Effects :=
  if slimClosed then
    ⟨[], [(none, .error (.processing "error sending message to local slim instance"))]⟩
  else ⟨[msg], []⟩

/-- The timer of the producer is started anew, which only makes it send beacons. -/
def processMessageFromApp [NameHash] (ctx : StreamContext) (producer : ProducerState)
    (isBidirectional : Bool) (msg : ProtoMessage) (slimClosed : Bool) :
    Except StreamPanic (Effects × ProducerState) := do
  let msg ← ofAccess (producer.stamp isBidirectional msg)
  let buffer ← ofAccess (producer.buffer.push msg)
  let nextId ← ofArithmetic (ctx.build.succ32 producer.nextId)
  return (sendOrReport msg slimClosed, ⟨buffer, nextId⟩)

def sendBeaconMsg (ctx : StreamContext) (topic : AgentType) (beaconType : SessionHeaderType)
    (lastMsgId : UInt32) : ProtoMessage :=
  ProtoMessage.newPublishWithHeaders
    (some (ProtoSlimHeader.new ctx.source topic none
      (some (SlimHeaderFlags.default.withFanout STREAM_BROADCAST))))
    (some ⟨beaconType.toInt, ctx.sessionId, lastMsgId⟩) "" []

/-- The timer of the producer has run out. -/
def onTimer (ctx : StreamContext) (producer : ProducerState) (beaconType : SessionHeaderType) :
    Except StreamPanic ProtoMessage := do
  let lastMsgId ← ofArithmetic (ctx.build.pred32 producer.nextId)
  return sendBeaconMsg ctx producer.buffer.destinationName beaconType lastMsgId

end ProducerState

/-! ## The receiver -/

/-- The timer of a retransmission. -/
structure RtxTimer where
  timeout : Duration
  maxRetries : UInt32
  stopped : Bool
deriving DecidableEq, Repr

structure Receiver where
  buffer : ReceiverBuffer ProtoMessage
  rtxMap : HashMap UInt32 ProtoMessage
  timersMap : HashMap UInt32 RtxTimer

def Receiver.new : Receiver := ⟨ReceiverBuffer.default, HashMap.empty, HashMap.empty⟩

structure ReceiverState where
  buffers : HashMap Agent Receiver

/-- What a message from the network means to the buffer of its producer; nothing for a
    header type that a receiver does not take. -/
def ProtoMessage.bufferCall (msg : ProtoMessage) :
    Except AccessPanic (Option (BufferCall ProtoMessage)) := do
  let headerType ← msg.getHeaderType
  let msgId ← msg.getMessageId
  match headerType with
  | .stream => return some (.received msg)
  | .pubSub => return some (.received msg)
  | .rtxReply => do
      let error ← msg.getError
      return some (if error = some true then .lost msgId else .received msg)
  | .beaconStream => return some (.beacon msgId)
  | .beaconPubSub => return some (.beacon msgId)
  | _ => return none

/-- The items for the application, in order. -/
def sendMessageToApp (sessionId : UInt32) :
    List (Option ProtoMessage) → Except AccessPanic (List (Except SessionError SessionMessage))
  | [] => return []
  | some m :: messages => do
      let info ← Info.ofMessage m
      let items ← sendMessageToApp sessionId messages
      return .ok ⟨m, info⟩ :: items
  | none :: messages => do
      let items ← sendMessageToApp sessionId messages
      return .error (.messageLost (toString sessionId)) :: items

namespace Receiver

/-- The state kept for a retransmission is dropped. -/
def forget (receiver : Receiver) (msgId : UInt32) : Receiver :=
  { receiver with
    rtxMap := receiver.rtxMap.remove msgId
    timersMap := receiver.timersMap.remove msgId }

/-- An answer to a request ends the retransmission. -/
def cleanAfter (receiver : Receiver) (headerType : SessionHeaderType) (msgId : UInt32) : Receiver :=
  if headerType = .rtxReply then receiver.forget msgId else receiver

def rtxRequest (ctx : StreamContext) (producerName : Agent) (producerConn : Nat)
    (msgId : UInt32) : ProtoMessage :=
  ProtoMessage.newPublishWithHeaders
    (some (ProtoSlimHeader.new ctx.source producerName.agentType (some producerName.agentId)
      (some (SlimHeaderFlags.default.withForwardTo producerConn))))
    (some ⟨SessionHeaderType.rtxRequest.toInt, ctx.sessionId, msgId⟩) "" []

/-- Keep a request to send it again, and start its timer. -/
def track (ctx : StreamContext) (producerName : Agent) (producerConn : Nat) (receiver : Receiver)
    (msgId : UInt32) : Receiver :=
  { receiver with
    rtxMap := receiver.rtxMap.insert msgId (rtxRequest ctx producerName producerConn msgId)
    timersMap := receiver.timersMap.insert msgId ⟨ctx.timeout, ctx.maxRetries, false⟩ }

/-- The tracked requests are not in the buffer of messages. -/
@[simp] theorem buffer_foldl_track (ctx : StreamContext) (producerName : Agent)
    (producerConn : Nat) (rtx : List UInt32) (receiver : Receiver) :
    (rtx.foldl (track ctx producerName producerConn) receiver).buffer = receiver.buffer := by
  induction rtx generalizing receiver with
  | nil => rfl
  | cons msgId rest ih => exact ih _

@[simp] theorem buffer_cleanAfter (receiver : Receiver) (headerType : SessionHeaderType)
    (msgId : UInt32) : (receiver.cleanAfter headerType msgId).buffer = receiver.buffer := by
  unfold cleanAfter
  split
  next => rfl
  next => rfl

end Receiver

namespace ReceiverState

def new : ReceiverState := ⟨HashMap.empty⟩

/-- The receiver for a producer, a new one for a producer not heard of before. -/
def receiverFor (state : ReceiverState) (producerName : Agent) : Receiver :=
  (state.buffers.get? producerName).getD Receiver.new

def put (state : ReceiverState) (producerName : Agent) (receiver : Receiver) : ReceiverState :=
  ⟨state.buffers.insert producerName receiver⟩

def processMessageFromSlim (ctx : StreamContext) (state : ReceiverState) (msg : ProtoMessage) :
    Except StreamPanic (Effects × ReceiverState) := do
  let producerName ← ofAccess msg.getSource
  let producerConn ← ofAccess msg.getIncomingConn
  let receiver := state.receiverFor producerName
  let headerType ← ofAccess msg.getHeaderType
  let msgId ← ofAccess msg.getMessageId
  match ← ofAccess msg.bufferCall with
  | none => return (Effects.nothing, state.put producerName receiver)
  | some call => do
      let ((recv, rtx), buffer) ← ofArithmetic (receiver.buffer.handle ctx.build call)
      let receiver := { receiver with buffer }.cleanAfter headerType msgId
      let items ← ofAccess (sendMessageToApp ctx.sessionId recv)
      return (⟨rtx.map (Receiver.rtxRequest ctx producerName producerConn),
          items.map fun item => (some producerName, item)⟩,
        state.put producerName (rtx.foldl (Receiver.track ctx producerName producerConn) receiver))

/-- Send the request again.  A request that is not kept any more has its timer stopped. -/
def handleRtxTimeout (state : ReceiverState) (producerName : Agent) (msgId : UInt32) :
    Effects × ReceiverState :=
  match state.buffers.get? producerName with
  | none => (Effects.nothing, state)
  | some receiver =>
      match receiver.rtxMap.get? msgId with
      | some rtx => (⟨[rtx], []⟩, state)
      | none =>
          match receiver.timersMap.get? msgId with
          | none => (Effects.nothing, state)
          | some timer =>
              (Effects.nothing, state.put producerName { receiver with
                timersMap := receiver.timersMap.insert msgId { timer with stopped := true } })

/-- No retry is left: the message is lost. -/
def handleRtxFailure (ctx : StreamContext) (state : ReceiverState) (producerName : Agent)
    (msgId : UInt32) : Except StreamPanic (Effects × ReceiverState) :=
  match state.buffers.get? producerName with
  | none => return (Effects.nothing, state)
  | some receiver => do
      let receiver := receiver.forget msgId
      let (recv, buffer) ← ofArithmetic (receiver.buffer.onLostMessage ctx.build msgId)
      let items ← ofAccess (sendMessageToApp ctx.sessionId recv)
      return (⟨[], items.map fun item => (some producerName, item)⟩,
        state.put producerName { receiver with buffer })

/-- A retransmission timer has run out, with or without a retry left. -/
def onRtxTimer (ctx : StreamContext) (state : ReceiverState) (producerName : Agent)
    (msgId : UInt32) (retry : Bool) : Except StreamPanic (Effects × ReceiverState) :=
  if retry then return state.handleRtxTimeout producerName msgId
  else state.handleRtxFailure ctx producerName msgId

end ReceiverState

/-! ## The task of a session -/

inductive Endpoint where
  | producer (prod : ProducerState)
  | receiver (recv : ReceiverState)
  | bidirectional (recv : ReceiverState) (prod : ProducerState)

/-- What the task of a session waits for, and whether the channel to the network is closed
    when a message has come. -/
inductive StreamEvent where
  | message (msg : ProtoMessage) (direction : MessageDirection) (slimClosed : Bool)
  | rtxTimer (msgId : UInt32) (retry : Bool) (producerName : Agent)
  | producerTimer

namespace Endpoint

def new : SessionDirection → Endpoint
  | .Sender => producer ProducerState.new
  | .Receiver => receiver ReceiverState.new
  | .Bidirectional => bidirectional ReceiverState.new ProducerState.new

def producer? : Endpoint → Option ProducerState
  | producer prod => some prod
  | receiver _ => none
  | bidirectional _ prod => some prod

def receiver? : Endpoint → Option ReceiverState
  | producer _ => none
  | receiver recv => some recv
  | bidirectional recv _ => some recv

/-- A receiver takes every message as one from the network. -/
def onMessage [NameHash] (ctx : StreamContext) (msg : ProtoMessage) (slimClosed : Bool) :
    Endpoint → MessageDirection → Except StreamPanic (Effects × Endpoint)
  | producer prod, .North => do
      let headerType ← ofAccess msg.getHeaderType
      if headerType = .rtxRequest then
        let reply ← ofAccess (prod.processIncomingRtxRequest ctx msg)
        return (⟨reply.toList, []⟩, producer prod)
      else return (Effects.nothing, producer prod)
  | producer prod, .South => do
      let (effects, prod) ← prod.processMessageFromApp ctx false msg slimClosed
      return (effects, producer prod)
  | receiver recv, _ => do
      let (effects, recv) ← recv.processMessageFromSlim ctx msg
      return (effects, receiver recv)
  | bidirectional recv prod, .North => do
      let headerType ← ofAccess msg.getHeaderType
      if headerType = .rtxRequest then
        let reply ← ofAccess (prod.processIncomingRtxRequest ctx msg)
        return (⟨reply.toList, []⟩, bidirectional recv prod)
      else
        let (effects, recv) ← recv.processMessageFromSlim ctx msg
        return (effects, bidirectional recv prod)
  | bidirectional recv prod, .South => do
      let (effects, prod) ← prod.processMessageFromApp ctx true msg slimClosed
      return (effects, bidirectional recv prod)

def onRtxTimer (ctx : StreamContext) (msgId : UInt32) (retry : Bool) (producerName : Agent) :
    Endpoint → Except StreamPanic (Effects × Endpoint)
  | producer prod => return (Effects.nothing, producer prod)
  | receiver recv => do
      let (effects, recv) ← recv.onRtxTimer ctx producerName msgId retry
      return (effects, receiver recv)
  | bidirectional recv prod => do
      let (effects, recv) ← recv.onRtxTimer ctx producerName msgId retry
      return (effects, bidirectional recv prod)

def onProducerTimer (ctx : StreamContext) : Endpoint → Except StreamPanic (Effects × Endpoint)
  | producer prod => do
      let beacon ← prod.onTimer ctx .beaconStream
      return (⟨[beacon], []⟩, producer prod)
  | bidirectional recv prod => do
      let beacon ← prod.onTimer ctx .beaconPubSub
      return (⟨[beacon], []⟩, bidirectional recv prod)
  | receiver recv => return (Effects.nothing, receiver recv)

/-- One round of the loop of `process_message`. -/
def processEvent [NameHash] (ctx : StreamContext) (endpoint : Endpoint) :
    StreamEvent → Except StreamPanic (Effects × Endpoint)
  | .message msg direction slimClosed => endpoint.onMessage ctx msg slimClosed direction
  | .rtxTimer msgId retry producerName => endpoint.onRtxTimer ctx msgId retry producerName
  | .producerTimer => endpoint.onProducerTimer ctx

end Endpoint

end Slim
